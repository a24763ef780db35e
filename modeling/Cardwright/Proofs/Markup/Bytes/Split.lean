import Cardwright.Proofs.Markup.Split
import Cardwright.Proofs.Text.Utf8

/-!
# Splitting the bytes of a text

Tags can be looked for by the bytes of their brackets, and cut out by places counted in bytes.  In
the bytes of a text no cut fails: a bracket is one byte, which no other character has, so each place
is between two characters.  What is cut out are the bytes of the segments of the text
(`Bytes.split?_utf8`).
-/

namespace Cardwright

open Text

/-- A piece of the bytes of a text with markup. -/
inductive BytesSegment
  | plain (text : Bytes)
  /-- A whole tag, its brackets included. -/
  | tag (text : Bytes)
deriving DecidableEq, Repr

/-- The bytes of a segment. -/
def MarkupSegment.utf8 : MarkupSegment → BytesSegment
  | plain text => .plain (Text.utf8 text)
  | tag text => .tag (Text.utf8 text)

namespace Bytes

/-! ### The rounds of splitting -/

/-- What is left is plain, if anything is. -/
def remainder (rest : Bytes) : List BytesSegment := if rest.isEmpty then [] else [.plain rest]

/-- The plain bytes before a tag, if there are any. -/
def beforeTag? (rest : Bytes) (start : Nat) : Option (List BytesSegment) :=
  if start = 0 then some [] else (slice? rest 0 start).map fun text => [.plain text]

/-- The segments up to the end of the first tag, and the bytes behind it; none if no tag is
closed. -/
def firstTag? (rest : Bytes) : Option (Option (List BytesSegment × Bytes)) :=
  -- The bytes of the brackets are 60 and 62.
  match rest.idxOf? 60 with
  | none => some none
  | some start => do
    let opened ← slice? rest start rest.length
    match opened.idxOf? 62 with
    | none => some none
    | some n =>
      let front ← beforeTag? rest start
      let tag ← slice? rest start (start + n + 1)
      let behind ← slice? rest (start + n + 1) rest.length
      some (some (front ++ [.tag tag], behind))

theorem length_slice?_lt {b x : Bytes} {i j : Nat} (h : slice? b i j = some x) (hi : 0 < i) :
    x.length < b.length := by
  unfold slice? at h
  split_ifs at h with hcut
  rw [← Option.some.inj h, List.extract_eq_take_drop, List.length_take, List.length_drop]
  omega

theorem length_lt_of_firstTag? {rest behind : Bytes} {segments : List BytesSegment}
    (h : firstTag? rest = some (some (segments, behind))) : behind.length < rest.length := by
  unfold firstTag? at h
  split at h
  · cases h
  · simp only [Option.bind_eq_bind, Option.bind_eq_some_iff] at h
    obtain ⟨opened, -, h⟩ := h
    split at h
    · cases h
    · simp only [Option.bind_eq_some_iff] at h
      obtain ⟨front, -, tag, -, last, hlast, h⟩ := h
      cases h
      exact length_slice?_lt hlast (by omega)

/-- Split bytes into their tags and the plain bytes between them. -/
def split? (rest : Bytes) : Option (List BytesSegment) :=
  match _h : firstTag? rest with
  | none => none
  | some none => some (remainder rest)
  | some (some (segments, behind)) => (split? behind).map (segments ++ ·)
termination_by rest.length
decreasing_by exact length_lt_of_firstTag? _h

/-- One round of splitting and the rounds behind it. -/
theorem split?_eq (rest : Bytes) :
    split? rest = (firstTag? rest).bind fun
      | none => some (remainder rest)
      | some (segments, behind) => (split? behind).map (segments ++ ·) := by
  rw [split?]
  split <;> simp_all

/-! ### The bytes of a text -/

theorem idxOf?_utf8_eq_none {c : Char} (hc : c.toNat < 128) {t : Text} (h : c ∉ t) :
    (utf8 t).idxOf? (UInt8.ofNat c.toNat) = none :=
  List.idxOf?_eq_none_iff.2 fun hmem => h ((ofNat_mem_utf8_iff hc).1 hmem)

/-- The first place of an ASCII character. -/
theorem idxOf?_utf8_append {c : Char} (hc : c.toNat < 128) {p : Text} (hp : c ∉ p) (t : Text) :
    (utf8 (p ++ c :: t)).idxOf? (UInt8.ofNat c.toNat) = some (utf8 p).length := by
  have hbytes : utf8 (p ++ c :: t) = utf8 p ++ UInt8.ofNat c.toNat :: utf8 t := by
    rw [utf8_append, utf8_cons]
    rcases ascii_or_beyond c with ⟨-, heq⟩ | ⟨hle, -⟩
    · rw [heq, List.singleton_append]
    · omega
  have hbefore : UInt8.ofNat c.toNat ∉ utf8 p := fun hmem => hp ((ofNat_mem_utf8_iff hc).1 hmem)
  rw [hbytes, List.idxOf?_eq_some_iff]
  refine ⟨by simp, by simp, fun j hj heq => hbefore ?_⟩
  rw [List.getElem_append_left hj] at heq
  exact List.mem_of_getElem heq

theorem remainder_utf8 (t : Text) :
    remainder (utf8 t) = (Markup.plainSegments t).map MarkupSegment.utf8 := by
  unfold remainder Markup.plainSegments
  by_cases ht : t = []
  · rw [if_pos ht, ht]
    rfl
  · have hne : utf8 t ≠ [] := fun hnil => ht (length_utf8_eq_zero (congrArg List.length hnil))
    rw [if_neg ht, if_neg (by simpa using hne)]
    rfl

theorem beforeTag?_utf8_append (p rest : Text) :
    beforeTag? (utf8 (p ++ rest)) (utf8 p).length =
      some ((Markup.plainSegments p).map MarkupSegment.utf8) := by
  unfold beforeTag? Markup.plainSegments
  by_cases hp : p = []
  · rw [if_pos hp, hp]
    exact if_pos rfl
  · have hslice : slice? (utf8 (p ++ rest)) 0 (utf8 p).length = some (utf8 p) :=
      slice?_utf8 [] p rest
    rw [if_neg hp, if_neg fun hzero => hp (length_utf8_eq_zero hzero), hslice]
    rfl

theorem firstTag?_utf8_of_untagged {t : Text} (h : Markup.Untagged t) :
    firstTag? (utf8 t) = some none := by
  by_cases hmem : '<' ∈ t
  · obtain ⟨p, u, rfl, hp⟩ := List.eq_append_cons_of_mem hmem
    have hclose : '>' ∉ '<' :: u := List.not_mem_cons_of_ne_of_not_mem (by decide) (h p u rfl)
    have hfind : (utf8 (p ++ '<' :: u)).idxOf? 60 = some (utf8 p).length :=
      idxOf?_utf8_append (by decide) hp u
    have hnone : (utf8 ('<' :: u)).idxOf? 62 = none := idxOf?_utf8_eq_none (by decide) hclose
    simp only [firstTag?, hfind, slice?_utf8_tail, Option.bind_eq_bind, Option.bind_some, hnone]
  · have hnone : (utf8 t).idxOf? 60 = none := idxOf?_utf8_eq_none (by decide) hmem
    simp only [firstTag?, hnone]

theorem firstTag?_utf8_append {p x : Text} (hp : '<' ∉ p) (hx : Markup.IsTag x) (rest : Text) :
    firstTag? (utf8 (p ++ (x ++ rest))) =
      some (some ((Markup.plainSegments p ++ [MarkupSegment.tag x]).map MarkupSegment.utf8,
        utf8 rest)) := by
  obtain ⟨inner, hinner, hclosed⟩ := hx
  let t := p ++ (x ++ rest)
  have hopen : (utf8 t).idxOf? 60 = some (utf8 p).length := by
    have hfind := idxOf?_utf8_append (c := '<') (by decide) hp (inner ++ ['>'] ++ rest)
    rwa [← List.cons_append, ← List.cons_append, ← hinner] at hfind
  have hclose : (utf8 (x ++ rest)).idxOf? 62 = some (utf8 ('<' :: inner)).length := by
    have hbefore : '>' ∉ '<' :: inner := List.not_mem_cons_of_ne_of_not_mem (by decide) hclosed
    have hfind := idxOf?_utf8_append (c := '>') (by decide) hbefore rest
    rwa [List.append_cons, ← hinner] at hfind
  -- The closing bracket is one byte.
  have hend : (utf8 p).length + (utf8 ('<' :: inner)).length + 1 = (utf8 (p ++ x)).length := by
    have hbracket : (utf8 ['>']).length = 1 := rfl
    rw [hinner, utf8_append, utf8_append, List.length_append, List.length_append, hbracket,
      Nat.add_assoc]
  have hopened : slice? (utf8 t) (utf8 p).length (utf8 t).length = some (utf8 (x ++ rest)) :=
    slice?_utf8_tail p (x ++ rest)
  have hfront : beforeTag? (utf8 t) (utf8 p).length =
      some ((Markup.plainSegments p).map MarkupSegment.utf8) := beforeTag?_utf8_append p (x ++ rest)
  have htag : slice? (utf8 t) (utf8 p).length (utf8 (p ++ x)).length = some (utf8 x) :=
    slice?_utf8_eq_some_iff.2 ⟨p, x, rest, (List.append_assoc p x rest).symm, rfl, rfl, rfl⟩
  have hbehind : slice? (utf8 t) (utf8 (p ++ x)).length (utf8 t).length = some (utf8 rest) := by
    have htail := slice?_utf8_tail (p ++ x) rest
    rwa [List.append_assoc] at htail
  show firstTag? (utf8 t) = _
  simp only [firstTag?, hopen, hopened, Option.bind_eq_bind, Option.bind_some, hclose, hfront,
    hend, htag, hbehind, List.map_append, List.map_singleton]
  rfl

/-- **Splitting the bytes of a text never cuts a character**, and gives the bytes of the segments of
the text. -/
theorem split?_utf8 (t : Text) :
    split? (utf8 t) = some ((Markup.split t).map MarkupSegment.utf8) := by
  refine Markup.tag_induction (P := fun t =>
    split? (utf8 t) = some ((Markup.split t).map MarkupSegment.utf8)) ?_ ?_ t
  · intro t huntagged
    rw [split?_eq, firstTag?_utf8_of_untagged huntagged, Option.bind_some, remainder_utf8,
      Markup.split_eq_plainSegments huntagged]
  · intro p x rest hp hx ih
    rw [split?_eq, firstTag?_utf8_append hp hx, Option.bind_some]
    dsimp only
    rw [ih, Markup.split_append_tag hp hx, Option.map_some, ← List.map_append, List.append_assoc,
      List.singleton_append]

end Bytes

end Cardwright
