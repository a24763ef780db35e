import Cardwright.Lint
import Cardwright.Proofs.Text.Order
import Cardwright.Tables.Bundled
import Cardwright.Tables.Record

/-!
# The order of the linter's report

The pools of rarities and sizes are kept in maps, and the entries of a map come in no particular
order.  `Visits` says what the orders of one map are: lists with each of its entries once.  The maps
of tables that were read are kept as such lists (`Tables.visits_of_read?`).

The linter sorts the pools by their names before it reports on them.  Sorting is stable, so it
leaves pools of one name in the order in which they were collected.  Themes may share a name, but
they are kept in a list; no two pools of one map do, as labels are distinct.  So the report is the
same whatever the order of the maps (`Tables.lint_eq_of_visits`).
-/

namespace Cardwright

/-! ### The orders of a map -/

section Maps

variable {κ α : Type} {map : κ → Option α} {entries entries' : List (κ × α)}

/-- The entries of a map in some order: each is there once, and nothing else is. -/
structure Visits (map : κ → Option α) (entries : List (κ × α)) : Prop where
  nodup : entries.Nodup
  mem_iff : ∀ k v, (k, v) ∈ entries ↔ map k = some v

/-- Two orders of a map have the same entries. -/
theorem Visits.perm (h : Visits map entries) (h' : Visits map entries') :
    entries.Perm entries' := by
  rw [List.perm_ext_iff_of_nodup h.nodup h'.nodup]
  rintro ⟨k, v⟩
  rw [h.mem_iff, h'.mem_iff]

/-- Any rearrangement of an order is an order of the same map. -/
theorem Visits.of_perm (h : Visits map entries) (hperm : entries.Perm entries') :
    Visits map entries' where
  nodup := hperm.nodup_iff.1 h.nodup
  mem_iff k v := by rw [← hperm.mem_iff, h.mem_iff]

/-- No key is visited twice. -/
theorem Visits.nodup_keys (h : Visits map entries) : (entries.map Prod.fst).Nodup := by
  refine h.nodup.map_on ?_
  rintro ⟨k, v⟩ hv ⟨k', v'⟩ hv' (rfl : k = k')
  rw [h.mem_iff] at hv hv'
  rw [Option.some.inj (hv.symm.trans hv')]

variable [DecidableEq κ]

/-- Entries with distinct keys are an order of the map that looks them up. -/
theorem visits_lookup (h : (entries.map Prod.fst).Nodup) : Visits (entries.lookup ·) entries := by
  refine ⟨h.of_map, fun k v => ?_⟩
  induction entries with
  | nil => simp
  | cons e entries ih =>
    obtain ⟨a, w⟩ := e
    obtain ⟨hfirst, hrest⟩ := List.nodup_cons.1 h
    rw [lookup_cons, List.mem_cons, ih hrest, Prod.mk.injEq]
    by_cases hk : k = a
    · subst hk
      have hnone : entries.lookup k ≠ some v := by
        intro hlookup
        exact hfirst (List.mem_map.2 ⟨(k, v), (ih hrest).2 hlookup, rfl⟩)
      simp [hnone, eq_comm]
    · simp [hk]

/-- An entry takes the place of one with its key, or a new place at the end. -/
theorem map_fst_insertEntry (key : κ) (value : α) (entries : List (κ × α)) :
    (insertEntry key value entries).map Prod.fst =
      if key ∈ entries.map Prod.fst then entries.map Prod.fst
      else entries.map Prod.fst ++ [key] := by
  induction entries with
  | nil => simp [insertEntry]
  | cons e entries ih =>
    obtain ⟨a, w⟩ := e
    rw [insertEntry]
    by_cases hkey : a = key
    · simp [hkey]
    · rw [if_neg hkey, List.map_cons, ih]
      split_ifs <;> simp_all [eq_comm]

/-- Making an entry keeps the keys distinct. -/
theorem nodup_keys_insertEntry (key : κ) (value : α) (h : (entries.map Prod.fst).Nodup) :
    ((insertEntry key value entries).map Prod.fst).Nodup := by
  rw [map_fst_insertEntry]
  split_ifs with hmem
  · exact h
  · exact h.append (List.nodup_singleton key) (by simpa using hmem)

end Maps

/-! ### Maps that were read -/

namespace Record.Node

/-- Making entries one after another keeps the keys distinct. -/
theorem nodup_keys_of_foldlM {κ α : Type} [DecidableEq κ] {key : Node → Option κ}
    {value : Node → Option α} {members : List (Node × Node)} {made entries : List (κ × α)}
    (hmade : (made.map Prod.fst).Nodup)
    (h : members.foldlM (fun m e => do return insertEntry (← key e.1) (← value e.2) m) made =
      some entries) :
    (entries.map Prod.fst).Nodup := by
  induction members generalizing made with
  | nil =>
    obtain rfl := Option.some.inj h
    exact hmade
  | cons e members ih =>
    rw [List.foldlM_cons, Option.bind_eq_bind, Option.bind_eq_some_iff] at h
    obtain ⟨next, hnext, hrest⟩ := h
    simp only [Option.bind_eq_bind, Option.bind_eq_some_iff, Option.pure_def,
      Option.some.injEq] at hnext
    obtain ⟨k, -, v, -, rfl⟩ := hnext
    exact ih (nodup_keys_insertEntry k v hmade) hrest

/-- A map that was read is kept as one of its orders. -/
theorem visits_of_mapOf? {κ α : Type} [DecidableEq κ] {key : Node → Option κ}
    {value : Node → Option α} {n : Node} {entries : List (κ × α)}
    (h : n.mapOf? key value = some entries) : Visits (entries.lookup ·) entries := by
  unfold mapOf? at h
  split at h
  · exact visits_lookup (nodup_keys_of_foldlM (by simp) h)
  · cases h

theorem exists_of_required? {α : Type} {fields : List (Text × Node)} {name : Text}
    {value : Node → Option α} {a : α} (h : required? fields name value = some a) :
    ∃ n, value n = some a := by
  unfold required? at h
  split at h
  · next n _ => exact ⟨n, h⟩
  · cases h

end Record.Node

/-- **The maps of tables that were read are kept as orders of them.** -/
theorem Tables.visits_of_read? {text : Text} {t : Tables} (h : Tables.read? text = some t) :
    Visits (t.naming.rarityWords.lookup ·) t.naming.rarityWords ∧
      Visits (t.naming.sizeNouns.lookup ·) t.naming.sizeNouns := by
  obtain ⟨n, -, ht⟩ := Option.bind_eq_some_iff.1 h
  simp only [Tables.ofNode?, Option.bind_eq_bind, Option.bind_eq_some_iff, Option.pure_def,
    Option.some.injEq] at ht
  obtain ⟨_, -, _, -, _, -, _, -, _, -, _, -, _, -, naming, hnaming, rfl⟩ := ht
  obtain ⟨n, hn⟩ := Record.Node.exists_of_required? hnaming
  simp only [NamePools.ofNode?, Option.bind_eq_bind, Option.bind_eq_some_iff, Option.pure_def,
    Option.some.injEq] at hn
  obtain ⟨_, -, _, -, _, -, r, hr, s, hs, _, -, _, -, _, -, _, -, rfl⟩ := hn
  obtain ⟨_, hr⟩ := Record.Node.exists_of_required? hr
  obtain ⟨_, hs⟩ := Record.Node.exists_of_required? hs
  exact ⟨Record.Node.visits_of_mapOf? hr, Record.Node.visits_of_mapOf? hs⟩

/-! ### The pools in order -/

theorem Rarity.label_injective : Function.Injective Rarity.label := by
  intro r r'
  cases r <;> cases r' <;> decide

theorem Size.label_injective : Function.Injective Size.label := by
  intro s s'
  cases s <;> cases s' <;> decide

namespace Lint

open Text

/-- The pools of a map, named by their tiers, have one pool of a name at most. -/
theorem named_tiers_eq {κ : Type} {label : κ → Text} (hlabel : Function.Injective label)
    {map : κ → Option (List Text)} {entries entries' : List (κ × List Text)}
    (h : Visits map entries) (h' : Visits map entries') (family k : Text) :
    named Prod.fst k (entries.map fun e => (family ++ label e.1, e.2)) =
      named Prod.fst k (entries'.map fun e => (family ++ label e.1, e.2)) := by
  refine named_eq_of_perm_of_nodup ((h.perm h').map _) ?_ k
  have hname : Function.Injective fun key => family ++ label key := fun a b heq =>
    hlabel (List.append_cancel_left heq)
  have hnames := h.nodup_keys.map hname
  rwa [List.map_map] at hnames ⊢

end Lint

/-- The tables with the entries of the two maps in given orders. -/
def Tables.withMaps (t : Tables) (rarities : List (Rarity × List Text))
    (sizes : List (Size × List Text)) : Tables :=
  { t with naming := { t.naming with rarityWords := rarities, sizeNouns := sizes } }

section Orders

variable {rarities : Rarity → Option (List Text)} {sizes : Size → Option (List Text)}
  {r r' : List (Rarity × List Text)} {s s' : List (Size × List Text)}

theorem Lint.pools_withMaps_eq (hr : Visits rarities r) (hr' : Visits rarities r')
    (hs : Visits sizes s) (hs' : Visits sizes s') (t : Tables) :
    Lint.pools (t.withMaps r s).naming = Lint.pools (t.withMaps r' s').naming := by
  unfold Lint.pools
  refine Text.mergeSort_eq_iff.2 fun k => ?_
  simp only [Text.named_append, Tables.withMaps]
  rw [named_tiers_eq Rarity.label_injective hr hr', named_tiers_eq Size.label_injective hs hs']

/-- **The report does not depend on the order of the maps.**  Whatever the tables, two orders of the
pools of rarities and two of the pools of sizes give the same errors and the same warnings, in the
same order. -/
theorem Tables.lint_eq_of_visits (hr : Visits rarities r) (hr' : Visits rarities r')
    (hs : Visits sizes s) (hs' : Visits sizes s') (t : Tables) (m : Matcher) :
    (t.withMaps r s).lint m = (t.withMaps r' s').lint m := by
  have hpools := Lint.pools_withMaps_eq hr hr' hs hs' t
  unfold Tables.lint
  rw [hpools]
  rfl

/-- Tables with two themes of one key and without some tiers, the entries of their maps reversed. -/
theorem Tables.lint_eq_of_visits_reversed :
    let r : List (Rarity × List Text) :=
      [(.gold, ["Heal", "Old"]), (.bronze, []), (.silver, ["Dull"])]
    let s : List (Size × List Text) := [(.small, ["Dart"]), (.large, ["Wall", "heals", "Keep"])]
    let t : Tables :=
      { Tables.bundled with
        naming :=
          { Bundled.naming with themes := [⟨"heal", ["Balm"]⟩, ⟨"ash", []⟩, ⟨"heal", []⟩] } }
    let m := Matcher.ofTables t
    (Visits (r.lookup ·) r ∧ Visits (r.lookup ·) r.reverse ∧
      Visits (s.lookup ·) s ∧ Visits (s.lookup ·) s.reverse) ∧
    (t.withMaps r s).lint m = (t.withMaps r.reverse s.reverse).lint m := by
  intro r s t m
  have hr : Visits (r.lookup ·) r := visits_lookup (by decide)
  have hs : Visits (s.lookup ·) s := visits_lookup (by decide)
  have hr' := hr.of_perm r.reverse_perm.symm
  have hs' := hs.of_perm s.reverse_perm.symm
  exact ⟨⟨hr, hr', hs, hs'⟩, Tables.lint_eq_of_visits hr hr' hs hs' t m⟩

end Orders

end Cardwright
