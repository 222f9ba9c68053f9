/-!
# Tables

A table is a finite map whose keys carry a number, stored as a list of entries in increasing key
order. The order is part of the type, so two tables with the same look-ups are the same table
(`Table.ext_get?`) and a listing never depends on the order of the insertions.

## Main results

* `get?_insert`, `get?_erase`, `get?_modify`: what each operation does to a look-up.
* `ext_get?`: a table is determined by its look-ups.
* `insert_erase`, `modify_eq_self`: operations that leave a table as it was.
* `mem_keys_iff`: the listed keys are the keys that a look-up finds.
-/

namespace Docking

/-- Keys that are told apart, and put into order, by a number. -/
class Key (κ : Type) where
  /-- The number of a key. -/
  rank : κ → Nat
  /-- Keys of one number are one key. -/
  rank_inj : ∀ {a b : κ}, rank a = rank b → a = b

/-- A finite map from `κ` to `α`, its entries in increasing key order. -/
structure Table (κ α : Type) [Key κ] where
  /-- The entries, from the smallest key to the largest. -/
  entries : List (κ × α)
  /-- Keys increase strictly, so no key occurs twice. -/
  sorted : entries.Pairwise (fun a b => Key.rank a.1 < Key.rank b.1)

namespace Table

variable {κ α : Type} [Key κ]

/-! ## Entry lists -/

/-- The value that a list of entries holds for `k`. -/
def lookup (k : κ) : List (κ × α) → Option α
  | [] => none
  | e :: rest => if Key.rank e.1 = Key.rank k then some e.2 else lookup k rest

/-- Puts `v` at `k` into a sorted list of entries, over the value that was there. -/
def place (k : κ) (v : α) : List (κ × α) → List (κ × α)
  | [] => [(k, v)]
  | e :: rest =>
    if Key.rank k < Key.rank e.1 then (k, v) :: e :: rest
    else if Key.rank e.1 < Key.rank k then e :: place k v rest
    else (k, v) :: rest

theorem rank_of_mem_place {k : κ} {v : α} {e : κ × α} :
    ∀ {es : List (κ × α)}, e ∈ place k v es → e = (k, v) ∨ e ∈ es
  | [], h => by simpa [place] using h
  | d :: rest, h => by
    unfold place at h
    split at h
    · simpa using h
    · split at h
      · rcases List.mem_cons.1 h with rfl | h
        · exact .inr (List.mem_cons_self ..)
        · rcases rank_of_mem_place h with h | h
          · exact .inl h
          · exact .inr (List.mem_cons_of_mem _ h)
      · rcases List.mem_cons.1 h with h | h
        · exact .inl h
        · exact .inr (List.mem_cons_of_mem _ h)

theorem sorted_place {k : κ} {v : α} {es : List (κ × α)}
    (h : es.Pairwise (fun a b => Key.rank a.1 < Key.rank b.1)) :
    (place k v es).Pairwise (fun a b => Key.rank a.1 < Key.rank b.1) := by
  induction es with
  | nil => simp [place]
  | cons d rest ih =>
    obtain ⟨hd, hr⟩ := List.pairwise_cons.1 h
    unfold place
    split
    · next hk =>
      refine List.pairwise_cons.2 ⟨fun b hb => ?_, h⟩
      rcases List.mem_cons.1 hb with rfl | hb
      · exact hk
      · exact Nat.lt_trans hk (hd b hb)
    · split
      · next hk =>
        refine List.pairwise_cons.2 ⟨fun b hb => ?_, ih hr⟩
        rcases rank_of_mem_place hb with rfl | hb
        · exact hk
        · exact hd b hb
      · refine List.pairwise_cons.2 ⟨fun b hb => ?_, hr⟩
        have := hd b hb
        simp only
        omega

theorem lookup_place (k j : κ) (v : α) {es : List (κ × α)}
    (h : es.Pairwise (fun a b => Key.rank a.1 < Key.rank b.1)) :
    lookup j (place k v es) = if Key.rank k = Key.rank j then some v else lookup j es := by
  induction es with
  | nil => simp [place, lookup]
  | cons d rest ih =>
    obtain ⟨hd, hr⟩ := List.pairwise_cons.1 h
    unfold place
    split
    · simp [lookup]
    · split
      · next hk =>
        simp only [lookup, ih hr]
        split
        · next hj =>
          rw [if_neg (by omega)]
        · rfl
      · simp only [lookup]
        have : Key.rank d.1 = Key.rank k := by omega
        rw [this]
        split <;> simp_all

/-! ## Tables -/

/-- The table with no entry. -/
def empty : Table κ α := ⟨[], .nil⟩

instance : Inhabited (Table κ α) := ⟨empty⟩

/-- The value at a key. -/
def get? (t : Table κ α) (k : κ) : Option α := lookup k t.entries

/-- Whether a key has a value. -/
def contains (t : Table κ α) (k : κ) : Bool := (t.get? k).isSome

/-- The number of entries. -/
def size (t : Table κ α) : Nat := t.entries.length

/-- The keys, in increasing order. -/
def keys (t : Table κ α) : List κ := t.entries.map Prod.fst

/-- The values, in the order of their keys. -/
def values (t : Table κ α) : List α := t.entries.map Prod.snd

/-- The table with `v` at `k`, over the value that was there. -/
def insert (t : Table κ α) (k : κ) (v : α) : Table κ α :=
  ⟨place k v t.entries, sorted_place t.sorted⟩

/-- The table without the key `k`. -/
def erase (t : Table κ α) (k : κ) : Table κ α :=
  ⟨t.entries.filter (fun e => Key.rank e.1 != Key.rank k), t.sorted.filter _⟩

/-- The table with `f` applied to the value at `k`, if there is one. -/
def modify (t : Table κ α) (k : κ) (f : α → α) : Table κ α :=
  ⟨t.entries.map (fun e => if Key.rank e.1 = Key.rank k then (e.1, f e.2) else e), by
    refine List.pairwise_map.2 (t.sorted.imp ?_)
    intro a b h
    split <;> split <;> exact h⟩

/-! ## Look-ups after an operation -/

@[simp] theorem get?_empty (k : κ) : (empty : Table κ α).get? k = none := rfl

theorem get?_insert (t : Table κ α) (k j : κ) (v : α) [DecidableEq κ] :
    (t.insert k v).get? j = if k = j then some v else t.get? j := by
  unfold get? insert
  rw [lookup_place k j v t.sorted]
  by_cases h : k = j
  · simp [h]
  · rw [if_neg h, if_neg fun hr => h (Key.rank_inj hr)]

theorem get?_erase (t : Table κ α) (k j : κ) [DecidableEq κ] :
    (t.erase k).get? j = if k = j then none else t.get? j := by
  unfold get? erase
  simp only
  induction t.entries with
  | nil => simp [lookup]
  | cons d rest ih =>
    by_cases hd : Key.rank d.1 = Key.rank k
    · rw [List.filter_cons_of_neg (by simp [hd]), ih]
      by_cases h : k = j
      · simp [h]
      · rw [if_neg h, if_neg h, lookup, if_neg fun hr => h (Key.rank_inj (hd.symm.trans hr))]
    · rw [List.filter_cons_of_pos (by simpa using hd), lookup, lookup, ih]
      by_cases h : k = j
      · subst h; simp [hd]
      · simp [h]

theorem get?_modify (t : Table κ α) (k j : κ) (f : α → α) [DecidableEq κ] :
    (t.modify k f).get? j = if k = j then (t.get? j).map f else t.get? j := by
  unfold get? modify
  simp only
  induction t.entries with
  | nil => simp [lookup]
  | cons d rest ih =>
    rw [List.map_cons, lookup, lookup, ih]
    by_cases hd : Key.rank d.1 = Key.rank k
    · simp only [hd, if_true]
      by_cases h : k = j
      · subst h; simp
      · have : Key.rank k ≠ Key.rank j := fun hr => h (Key.rank_inj hr)
        simp [h, this]
    · simp only [hd, if_false]
      by_cases h : k = j
      · subst h; simp [hd]
      · simp [h]

theorem lookup_eq_some_iff {k : κ} {v : α} {es : List (κ × α)}
    (h : es.Pairwise (fun a b => Key.rank a.1 < Key.rank b.1)) :
    lookup k es = some v ↔ (k, v) ∈ es := by
  induction es with
  | nil => simp [lookup]
  | cons d rest ih =>
    obtain ⟨hd, hr⟩ := List.pairwise_cons.1 h
    rw [lookup, List.mem_cons]
    by_cases hk : Key.rank d.1 = Key.rank k
    · have hdk : d.1 = k := Key.rank_inj hk
      have hnot : (k, v) ∉ rest := fun hm => by
        have := hd _ hm
        simp only at this
        omega
      rw [if_pos hk]
      constructor
      · intro e
        exact .inl (Prod.ext hdk.symm (Option.some.inj e).symm)
      · rintro (e | e)
        · rw [← e]
        · exact absurd e hnot
    · rw [if_neg hk, ih hr]
      constructor
      · exact .inr
      · rintro (e | e)
        · exact absurd (congrArg (fun p : κ × α => Key.rank p.1) e.symm) hk
        · exact e

theorem get?_eq_some_iff {t : Table κ α} {k : κ} {v : α} :
    t.get? k = some v ↔ (k, v) ∈ t.entries := lookup_eq_some_iff t.sorted

theorem mem_keys_iff {t : Table κ α} {k : κ} : k ∈ t.keys ↔ (t.get? k).isSome := by
  rw [keys, List.mem_map, Option.isSome_iff_exists]
  constructor
  · rintro ⟨⟨j, v⟩, h, rfl⟩
    exact ⟨v, get?_eq_some_iff.2 h⟩
  · rintro ⟨v, h⟩
    exact ⟨(k, v), get?_eq_some_iff.1 h, rfl⟩

/-- No key is listed twice. -/
theorem nodup_keys (t : Table κ α) : t.keys.Nodup := by
  refine List.pairwise_map.2 (t.sorted.imp fun hlt heq => ?_)
  exact Nat.ne_of_lt hlt (congrArg Key.rank heq)

private theorem entries_ext {es ds : List (κ × α)}
    (hes : es.Pairwise (fun a b => Key.rank a.1 < Key.rank b.1))
    (hds : ds.Pairwise (fun a b => Key.rank a.1 < Key.rank b.1))
    (h : ∀ e, e ∈ es ↔ e ∈ ds) : es = ds := by
  induction es generalizing ds with
  | nil =>
    cases ds with
    | nil => rfl
    | cons d rest => exact absurd ((h d).2 (List.mem_cons_self ..)) (by simp)
  | cons e es ih =>
    cases ds with
    | nil => exact absurd ((h e).1 (List.mem_cons_self ..)) (by simp)
    | cons d ds =>
      obtain ⟨he, hes'⟩ := List.pairwise_cons.1 hes
      obtain ⟨hd, hds'⟩ := List.pairwise_cons.1 hds
      have hed : e = d := by
        rcases List.mem_cons.1 ((h e).1 (List.mem_cons_self ..)) with rfl | h1
        · rfl
        · rcases List.mem_cons.1 ((h d).2 (List.mem_cons_self ..)) with rfl | h2
          · rfl
          · have := hd _ h1
            have := he _ h2
            omega
      subst hed
      refine congrArg _ (ih hes' hds' fun x => ⟨fun hx => ?_, fun hx => ?_⟩)
      · rcases List.mem_cons.1 ((h x).1 (List.mem_cons_of_mem _ hx)) with rfl | h1
        · exact absurd (he _ hx) (Nat.lt_irrefl _)
        · exact h1
      · rcases List.mem_cons.1 ((h x).2 (List.mem_cons_of_mem _ hx)) with rfl | h1
        · exact absurd (hd _ hx) (Nat.lt_irrefl _)
        · exact h1

/-- A table is determined by its look-ups. -/
theorem ext_get? {t u : Table κ α} (h : ∀ k, t.get? k = u.get? k) : t = u := by
  have : t.entries = u.entries := by
    refine entries_ext t.sorted u.sorted fun ⟨k, v⟩ => ?_
    rw [← get?_eq_some_iff, ← get?_eq_some_iff, h k]
  cases t
  cases u
  cases this
  rfl

/-- A value that is taken out and put back leaves the table as it was. -/
theorem insert_erase {t : Table κ α} {k : κ} {v : α} [DecidableEq κ] (h : t.get? k = some v) :
    (t.erase k).insert k v = t := by
  refine ext_get? fun j => ?_
  rw [get?_insert, get?_erase]
  split
  · next hk => rw [← hk, h]
  · rfl

/-- A change that keeps the value at its key leaves the table as it was. -/
theorem modify_eq_self {t : Table κ α} {k : κ} {f : α → α} [DecidableEq κ]
    (h : ∀ v, t.get? k = some v → f v = v) : t.modify k f = t := by
  refine ext_get? fun j => ?_
  rw [get?_modify]
  split
  · next hk =>
    subst hk
    cases hv : t.get? k with
    | none => rfl
    | some v => rw [Option.map_some, h v hv]
  · rfl

end Table

end Docking
