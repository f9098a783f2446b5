/-! Tables: values by name, each name at most once, in ascending order of the names. -/
namespace ConnectorHub.Store

structure Table (α : Type) where
  entries : List (String × α)
  sorted : entries.Pairwise (fun a b => a.1 < b.1)
  deriving DecidableEq, Repr

namespace Table

variable {α β : Type}

/-- The table without names. -/
def empty : Table α := ⟨[], .nil⟩

instance : Inhabited (Table α) := ⟨empty⟩

/-- The value of a name in a list of entries. -/
def lookup (name : String) : List (String × α) → Option α
  | [] => none
  | (n, a) :: r => if n = name then some a else lookup name r

/-- Puts an entry in its place in a sorted list, instead of one of the same name. -/
def place (name : String) (a : α) : List (String × α) → List (String × α)
  | [] => [(name, a)]
  | (n, b) :: r =>
    if name < n then (name, a) :: (n, b) :: r
    else if n = name then (name, a) :: r
    else (n, b) :: place name a r

theorem mem_place {name : String} {a : α} {es : List (String × α)} {e : String × α}
    (h : e ∈ place name a es) : e = (name, a) ∨ e ∈ es := by
  induction es with
  | nil => simpa [place] using h
  | cons x r ih =>
    obtain ⟨n, b⟩ := x
    simp only [place] at h
    split at h
    · simpa using h
    · split at h
      · rcases List.mem_cons.1 h with h | h
        · exact .inl h
        · exact .inr (List.mem_cons_of_mem _ h)
      · rcases List.mem_cons.1 h with h | h
        · exact .inr (h ▸ List.mem_cons_self)
        · exact (ih h).imp_right (List.mem_cons_of_mem _)

theorem sorted_place (name : String) (a : α) {es : List (String × α)}
    (h : es.Pairwise (fun a b => a.1 < b.1)) :
    (place name a es).Pairwise (fun a b => a.1 < b.1) := by
  induction es with
  | nil => simp [place]
  | cons x r ih =>
    obtain ⟨n, b⟩ := x
    obtain ⟨hx, hr⟩ := List.pairwise_cons.1 h
    simp only [place]
    split
    · rename_i hlt
      refine List.pairwise_cons.2 ⟨fun e he => ?_, h⟩
      rcases List.mem_cons.1 he with rfl | he
      · exact hlt
      · exact String.lt_trans hlt (hx e he)
    · rename_i hnlt
      split
      · rename_i heq
        exact List.pairwise_cons.2 ⟨fun e he => heq ▸ hx e he, hr⟩
      · rename_i hne
        refine List.pairwise_cons.2 ⟨fun e he => ?_, ih hr⟩
        rcases mem_place he with rfl | he
        · exact String.not_le.1 fun hle =>
            hne (String.le_antisymm (String.not_lt.1 hnlt) hle)
        · exact hx e he

def get? (t : Table α) (name : String) : Option α := lookup name t.entries

def contains (t : Table α) (name : String) : Bool := (t.get? name).isSome

/-- Gives a name a value. -/
def insert (t : Table α) (name : String) (a : α) : Table α :=
  ⟨place name a t.entries, sorted_place name a t.sorted⟩

/-- Takes a name out. -/
def erase (t : Table α) (name : String) : Table α :=
  ⟨t.entries.filter (·.1 ≠ name), t.sorted.filter _⟩

/-- The names in ascending order. -/
def names (t : Table α) : List String := t.entries.map (·.1)

/-- The table of pairs; the last one of a name counts. -/
def ofList (es : List (String × α)) : Table α := es.foldl (fun t e => t.insert e.1 e.2) empty

theorem lookup_place_self (name : String) (a : α) (es : List (String × α)) :
    lookup name (place name a es) = some a := by
  induction es with
  | nil => simp [place, lookup]
  | cons x r ih =>
    obtain ⟨n, b⟩ := x
    simp only [place]
    split
    · simp [lookup]
    · split
      · simp [lookup]
      · rename_i h
        simpa [lookup, h] using ih

theorem lookup_place_of_ne {name other : String} (a : α) (es : List (String × α))
    (h : other ≠ name) : lookup other (place name a es) = lookup other es := by
  induction es with
  | nil => simp [place, lookup, Ne.symm h]
  | cons x r ih =>
    obtain ⟨n, b⟩ := x
    simp only [place]
    split
    · simp [lookup, Ne.symm h]
    · split
      · rename_i hn
        simp [lookup, hn, Ne.symm h]
      · simp [lookup, ih]

theorem lookup_filter_self (name : String) (es : List (String × α)) :
    lookup name (es.filter (·.1 ≠ name)) = none := by
  induction es with
  | nil => rfl
  | cons x r ih =>
    by_cases h : x.1 = name
    · simpa [List.filter_cons, h] using ih
    · simpa [List.filter_cons, h, lookup] using ih

theorem lookup_filter_of_ne {name other : String} (es : List (String × α)) (h : other ≠ name) :
    lookup other (es.filter (·.1 ≠ name)) = lookup other es := by
  induction es with
  | nil => rfl
  | cons x r ih =>
    by_cases hx : x.1 = name
    · simpa [List.filter_cons, hx, lookup, Ne.symm h] using ih
    · simpa [List.filter_cons, hx, lookup] using by rw [← ih]; simp

@[simp] theorem get?_empty (name : String) : (empty : Table α).get? name = none := rfl

@[simp] theorem get?_insert_self (t : Table α) (name : String) (a : α) :
    (t.insert name a).get? name = some a := lookup_place_self ..

theorem get?_insert_of_ne (t : Table α) {name other : String} (a : α) (h : other ≠ name) :
    (t.insert name a).get? other = t.get? other := lookup_place_of_ne _ _ h

@[simp] theorem get?_erase_self (t : Table α) (name : String) : (t.erase name).get? name = none :=
  lookup_filter_self ..

theorem get?_erase_of_ne (t : Table α) {name other : String} (h : other ≠ name) :
    (t.erase name).get? other = t.get? other := lookup_filter_of_ne _ h

theorem lookup_eq_none {name : String} {es : List (String × α)} (h : ∀ e ∈ es, name < e.1) :
    lookup name es = none := by
  induction es with
  | nil => rfl
  | cons e r ih =>
    have hne : e.1 ≠ name := fun he => String.lt_irrefl name (he ▸ h e List.mem_cons_self)
    simp only [lookup, hne, if_false]
    exact ih fun x hx => h x (List.mem_cons_of_mem _ hx)

theorem entries_eq_of_lookup {es fs : List (String × α)} (he : es.Pairwise (fun a b => a.1 < b.1))
    (hf : fs.Pairwise (fun a b => a.1 < b.1)) (h : ∀ name, lookup name es = lookup name fs) :
    es = fs := by
  induction es generalizing fs with
  | nil =>
    cases fs with
    | nil => rfl
    | cons f s => simpa [lookup] using h f.1
  | cons e r ih =>
    cases fs with
    | nil => simpa [lookup] using h e.1
    | cons f s =>
      obtain ⟨her, hr⟩ := List.pairwise_cons.1 he
      obtain ⟨hfs, hs⟩ := List.pairwise_cons.1 hf
      have hnames : e.1 = f.1 := by
        refine String.le_antisymm (String.not_lt.1 fun hlt => ?_) (String.not_lt.1 fun hlt => ?_)
        · have hn : lookup f.1 (e :: r) = none := lookup_eq_none fun x hx => by
            rcases List.mem_cons.1 hx with rfl | hx
            · exact hlt
            · exact String.lt_trans hlt (her x hx)
          rw [h] at hn
          simp [lookup] at hn
        · have hn : lookup e.1 (f :: s) = none := lookup_eq_none fun x hx => by
            rcases List.mem_cons.1 hx with rfl | hx
            · exact hlt
            · exact String.lt_trans hlt (hfs x hx)
          rw [← h] at hn
          simp [lookup] at hn
      have hvalues : e.2 = f.2 := by simpa [lookup, hnames] using h e.1
      have htails : ∀ name, lookup name r = lookup name s := by
        intro name
        by_cases hn : e.1 = name
        · rw [lookup_eq_none fun x hx => hn ▸ her x hx,
            lookup_eq_none fun x hx => hn ▸ hnames ▸ hfs x hx]
        · simpa [lookup, hn, hnames ▸ hn] using h name
      rw [ih hr hs htails, Prod.ext hnames hvalues]

/-- A table is determined by the values of its names. -/
theorem ext {t u : Table α} (h : ∀ name, t.get? name = u.get? name) : t = u := by
  cases t
  cases u
  congr
  exact entries_eq_of_lookup ‹_› ‹_› h

end Table

end ConnectorHub.Store
