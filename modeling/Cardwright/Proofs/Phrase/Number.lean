import Cardwright.Phrase.Form
import Cardwright.Proofs.Template.Braces
import Cardwright.Proofs.Text.Replace

/-!
# Numbers in phrases

A number is put into a phrase by replacing the token that keeps its place, which then stands nowhere
in the phrase (`not_numberToken_infix_fillNumber`).  The digits that come in might stand beside a
brace, and what is left when a token goes might close up; neither makes or breaks a slot
(`placeholders_parse_replaceAll`), and braces that stood in tokens still do (`bracedBy_fillNumber`).

The reason is that what is put in is not empty and begins with a character of no token.  A token
that is read in the new text at a place that was copied cannot reach into what was put in, so it
stood at that place before (`Text.prefix_of_prefix_replaceAll`).
-/

namespace Cardwright

/-! ### Digits -/

theorem exists_decimal_eq_cons (n : Nat) : ∃ d v, Text.decimal n = d :: v ∧ d.isDigit = true := by
  obtain ⟨d, v, hdigits⟩ : ∃ d v, Text.decimal n = d :: v :=
    List.exists_cons_of_ne_nil Nat.toDigits_ne_nil
  have hmem : d ∈ Text.decimal n := hdigits ▸ List.mem_cons_self
  exact ⟨d, v, hdigits, Text.isDigit_of_mem_decimal hmem⟩

theorem not_mem_of_isDigit {text : Text} (hno : text.all (fun d => !d.isDigit) = true) {c : Char}
    (h : c.isDigit = true) : c ∉ text := by
  intro hmem
  have hc := List.all_eq_true.1 hno c hmem
  rw [h] at hc
  cases hc

theorem not_mem_token_of_isDigit {c : Char} (h : c.isDigit = true) (p : Placeholder) :
    c ∉ p.token :=
  not_mem_of_isDigit (by cases p <;> decide) h

/-- Once the number is put in, no place is kept for one. -/
theorem not_numberToken_infix_fillNumber (count : Nat) (amount : Text) :
    ¬ numberToken <:+: fillNumber count amount := by
  have hdigits : ∀ c ∈ Text.decimal count, c ∉ numberToken := fun _ hc =>
    not_mem_of_isDigit (by decide) (Text.isDigit_of_mem_decimal hc)
  obtain ⟨d, v, hdecimal, -⟩ := exists_decimal_eq_cons count
  rw [hdecimal] at hdigits
  rw [fillNumber, hdecimal]
  exact Text.not_infix_replaceAll (by decide) hdigits amount

/-! ### Wordings of numbers -/

theorem braceFree_signed {text : Text} (h : Text.BraceFree text) (negative : Bool) :
    Text.BraceFree (Binary32.signed negative text) := by
  cases negative with
  | false => exact h
  | true => exact Text.braceFree_cons.2 ⟨by decide, h⟩

theorem braceFree_tenths (x : Binary32) : Text.BraceFree x.tenths := by
  unfold Binary32.tenths
  split
  · decide
  · exact braceFree_signed (by decide) _
  · refine braceFree_signed (Text.braceFree_append.2 ⟨Text.braceFree_decimal _, ?_⟩) _
    exact Text.braceFree_cons.2 ⟨by decide, Text.braceFree_decimal _⟩

theorem braceFree_seconds (x : Binary32) : Text.BraceFree (Duration.seconds x).render :=
  Text.braceFree_append.2 ⟨braceFree_tenths x, by decide⟩

theorem braceFree_times (d : Times) : Text.BraceFree d.render := by
  cases d with
  | once => decide
  | count n => exact Text.braceFree_append.2 ⟨Text.braceFree_decimal n, by decide⟩

theorem braceFree_percent (n : Nat) : Text.BraceFree (Text.decimal n ++ ['%']) :=
  Text.braceFree_append.2 ⟨Text.braceFree_decimal n, by decide⟩

theorem braceFree_lead (m : Multiplier) : Text.BraceFree m.lead := by cases m <;> decide

/-! ### Slots -/

namespace Template

section Replacing

variable {n v : Text} {d : Char}

theorem replaceAll_token_append {p : Placeholder} {t : Text} (h : ¬ '{' :: n <+: p.token ++ t) :
    Text.replaceAll ('{' :: n) v (p.token ++ t) = p.token ++ Text.replaceAll ('{' :: n) v t := by
  rw [Placeholder.token_eq_cons, List.cons_append] at h ⊢
  rw [Text.replaceAll_cons h, Text.replaceAll_append_of_not_mem p.open_not_mem_name_append]
  rfl

/-- Behind its first character a token is no more than text. -/
theorem placeholders_parse_name_append (p : Placeholder) (t : Text) :
    placeholders (parse (p.name ++ ['}'] ++ t)) = placeholders (parse t) := by
  rw [parse_append_of_open_not_mem p.open_not_mem_name_append, placeholders_consLiteral]

/-- **Replacing keeps the slots.**  Let every occurrence of a text that opens with a brace, holds no
token and begins none that goes on behind it, be replaced by a text without an opening brace that
begins with a character of no token.  Then the same slots are read, in the same order. -/
theorem placeholders_parse_replaceAll (hneedle : placeholders (parse ('{' :: n)) = [])
    (hapart : ∀ t, Apart ('{' :: n) t) (hopen : '{' ∉ d :: v)
    (hd : ∀ p : Placeholder, d ∉ p.token) (t : Text) :
    placeholders (parse (Text.replaceAll ('{' :: n) (d :: v) t)) = placeholders (parse t) := by
  have hne : '{' :: n ≠ [] := by simp
  induction t using Text.replaceAll_induction hne with
  | nil => rw [Text.replaceAll_nil]
  | needle_append t ih =>
    rw [Text.replaceAll_needle_append hne, parse_append_of_open_not_mem hopen,
      parse_append (hapart t), placeholders_splice, hneedle,
      placeholders_consLiteral, ih]
    rfl
  | char c t hc ih =>
    by_cases htoken : ∃ p : Placeholder, p.token <+: c :: t
    · -- A token comes off whole on both sides; the hypothesis speaks of the text from its second
      -- character on, which reads as the text behind the token does.
      obtain ⟨p, rest, hrest⟩ := htoken
      have ht : t = p.name ++ ['}'] ++ rest := by
        rw [Placeholder.token_eq_cons, List.cons_append, List.cons.injEq] at hrest
        exact hrest.2.symm
      rw [← hrest] at hc ⊢
      rw [replaceAll_token_append hc, parse_token_append, parse_token_append]
      rw [ht, Text.replaceAll_append_of_not_mem p.open_not_mem_name_append,
        placeholders_parse_name_append, placeholders_parse_name_append] at ih
      exact congrArg (p :: ·) ih
    · rw [not_exists] at htoken
      have hcopy : ∀ p : Placeholder,
          ¬ p.token <+: c :: Text.replaceAll ('{' :: n) (d :: v) t := by
        intro p hp
        rw [← Text.replaceAll_cons hc] at hp
        exact htoken p (Text.prefix_of_prefix_replaceAll hne (hd p) hp)
      rw [Text.replaceAll_cons hc, parse_cons hcopy, parse_cons htoken, placeholders_consLiteral,
        placeholders_consLiteral, ih]

end Replacing

end Template

/-! ### Braces -/

/-- The token of a number is the token of no slot, whatever stands behind. -/
theorem not_numberToken_prefix (p : Placeholder) (t : Text) : ¬ numberToken <+: p.token ++ t := by
  have hchars : numberToken = ['{', 'N', 'u', 'm', 'b', 'e', 'r', '}'] := by decide
  obtain ⟨h₁, h₂, h₃, h₄, h₅⟩ := Placeholder.token_chars
  rw [hchars]
  cases p <;> simp [h₁, h₂, h₃, h₄, h₅]

/-- An amount form whose braces all stand in tokens, that of the number among them, has them in the
tokens of slots once the number is put in. -/
theorem bracedBy_fillNumber {amount : Text} (count : Nat)
    (h : Text.BracedBy (numberToken :: Placeholder.tokens) amount) :
    Text.BracedBy Placeholder.tokens (fillNumber count amount) := by
  have hne : numberToken ≠ [] := by decide
  have hcons : numberToken = '{' :: "Number\x7d".toList := by decide
  induction h with
  | nil =>
    rw [fillNumber, Text.replaceAll_nil]
    exact .nil
  | @char c t hc _ ih =>
    have hstart : ¬ numberToken <+: c :: t := by
      rw [hcons]
      intro hpre
      exact hc.1 ((List.cons_prefix_cons.1 hpre).1 ▸ List.mem_cons_self)
    rw [fillNumber, Text.replaceAll_cons hstart]
    exact .char hc ih
  | @token k t hk _ ih =>
    rcases List.mem_cons.1 hk with rfl | hk
    · rw [fillNumber, Text.replaceAll_needle_append hne]
      exact ih.append_left (Text.braceFree_decimal count)
    · obtain ⟨p, -, rfl⟩ := List.mem_map.1 hk
      have hp := not_numberToken_prefix p t
      rw [hcons] at hp
      rw [fillNumber, hcons, Template.replaceAll_token_append hp, ← hcons]
      exact ih.token (Template.token_mem_tokens p)

end Cardwright
