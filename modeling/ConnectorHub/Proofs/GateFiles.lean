import ConnectorHub.FeederGate
import ConnectorHub.Proofs.FileTrees
import ConnectorHub.Proofs.FormData
import ConnectorHub.Proofs.JsonText

/-! The file of the feeder gate. A gate that was stored is loaded again, whatever was in its place. A
gate that could not be stored leaves what is loaded as it was: its contents are written beside the
file first, and only a whole file is moved to its place. -/
namespace ConnectorHub.GateFile

open Files Number

variable {f : GateFile} {host : String} {port : Int} {t t' : Tree} {p : Place} {e : GateError}

/-- A gate is read from what is written for it. -/
theorem readBytes_contents (f : GateFile) (host : String) (h : port.natAbs < 10 ^ maxDigits) :
    f.readBytes (Text.Utf8.encode (contents host port)) = .ok ⟨.text host, port⟩ := by
  have hread : Json.read (contents host port) =
      .ok (.object [(hostName, .text host), (portName, .integer port)]) :=
    Json.read_writeMembers (by simp) (by simp [Json.Plain, h]) (by decide : [hostName, portName].Nodup)
  rw [readBytes, Text.Utf8.decode?_encode]
  simp only [hread]
  rfl

/-- The place where new contents are written first. -/
def temporary (f : GateFile) : Place := beside f.path.dropLast (f.path.getLastD "")

/-- What keeps a gate from being stored in a tree, and how that is told. -/
inductive Obstacle (f : GateFile) (port : Int) (t : Tree) : GateError → Prop
  | file {p : Place} {bytes : List UInt8} (hp : p <+: f.path.dropLast) (h : t.at? p = some (.file bytes)) :
      Obstacle f port t (.unwritable f.shown)
  | directory (h : t.at? f.path = some .directory) : Obstacle f port t (.unwritable f.shown)
  | temporary (h : t.at? f.temporary = some .directory) : Obstacle f port t (.unwritable f.shown)
  | port (h : 10 ^ maxDigits ≤ port.natAbs) : Obstacle f port t .portUnprintable
  | null {s : String} (hs : s ∈ f.path) (h : hasNull s = true) : Obstacle f port t .nullInPath

/-- The tree when new contents were moved from beside the file to its place. -/
def moved (f : GateFile) (bytes : List UInt8) (t : Tree) : Tree :=
  ((t.put f.temporary (.file bytes)).remove f.temporary).put f.path (.file bytes)

/-- What storing a gate comes to. -/
inductive Outcome (f : GateFile) (host : String) (port : Int) (t : Tree) :
    Except GateError FeederGate × Tree → Prop
  | stopped {e : GateError} {t₁ : Tree} (ho : f.Obstacle port t e)
      (ht : t.Paved f.path.dropLast t₁) : Outcome f host port t (.error e, t₁)
  | blocked {t₁ : Tree} {bytes : List UInt8} (hne : f.path ≠ [])
      (ho : t.at? f.path = some .directory) (htemp : t.at? f.temporary ≠ some .directory)
      (ht : t.Paved f.path.dropLast t₁) :
      Outcome f host port t (.error (.unwritable f.shown), t₁.put f.temporary (.file bytes))
  | stored {t₁ : Tree} (hne : f.path ≠ []) (hfree : ∀ e, ¬ f.Obstacle port t e)
      (ht : t.Paved f.path.dropLast t₁) (hleads : t₁.Leads [] f.path.dropLast) :
      Outcome f host port t
        (.ok ⟨.text host, port⟩, f.moved (Text.Utf8.encode (contents host port)) t₁)

theorem exists_eq_concat (hne : f.path ≠ []) :
    ∃ directory name, f.path = directory ++ [name] ∧ f.path.dropLast = directory ∧
      f.path.getLast? = some name ∧ f.temporary = beside directory name := by
  obtain ⟨directory, name, h⟩ := (List.eq_nil_or_concat f.path).resolve_left hne
  rw [List.concat_eq_append] at h
  refine ⟨directory, name, h, ?_, ?_, ?_⟩
  · rw [h, List.dropLast_concat]
  · rw [h, List.getLast?_concat]
  · simp [temporary, h]

theorem beside_ne {directory : Place} {name : String} : beside directory name ≠ directory ++ [name] := by
  intro h
  simp [beside] at h

/-- How a file in a directory is replaced. -/
theorem replace_eq {directory : Place} {name : String} (hname : name ≠ "..")
    (hin : t.at? directory = some .directory) (bytes : List UInt8) :
    replace t directory name bytes =
      if t.at? (beside directory name) = some .directory then (t, false)
      else if t.at? (directory ++ [name]) = some .directory then
        (t.put (beside directory name) (.file bytes), false)
      else (((t.put (beside directory name) (.file bytes)).remove (beside directory name)).put
        (directory ++ [name]) (.file bytes), true) := by
  have hne : beside directory name ≠ [] := by simp [beside]
  have hdirectory : directory ≠ beside directory name := by
    intro h
    have := congrArg List.length h
    simp [beside] at this
  have hresolve : (t.put (beside directory name) (.file bytes)).resolve directory [name] =
      some (directory ++ [name]) := by
    have hnil : ".." ∉ ([] : List String) := List.not_mem_nil
    refine (Tree.resolve_eq_some_iff hnil hname _ _).2 ⟨?_, trivial, by simp⟩
    rwa [Tree.at?_put_of_ne _ _ hdirectory]
  unfold replace Tree.write?
  by_cases htemporary : t.at? (beside directory name) = some .directory
  · simp only [if_pos htemporary]
  · simp only [if_neg htemporary, hresolve, Option.bind_some, Tree.move?, Tree.at?_put_self _ _ _ hne,
      Tree.at?_put_of_ne _ _ beside_ne.symm]
    split
    · rename_i hdirectory
      split at hdirectory
      · rename_i h
        rw [if_pos h]
      · cases hdirectory
    · rename_i hmoved
      split at hmoved
      · cases hmoved
      · rename_i h
        rw [if_neg h, Option.some.inj hmoved]

/-- Nothing on the way to a directory is in the directory. -/
theorem off_way (directory : Place) (name : String) : ¬ directory ++ [name] <+: directory := by
  intro h
  have := h.length_le
  simp at this

/-- The places of the file and of its new contents are not on the way to them. -/
theorem path_off_way (hne : f.path ≠ []) : ¬ f.path <+: f.path.dropLast := by
  obtain ⟨directory, name, hpath, hdrop, -⟩ := exists_eq_concat hne
  rw [hdrop, hpath]
  exact off_way directory name

theorem temporary_off_way (f : GateFile) : ¬ f.temporary <+: f.path.dropLast :=
  off_way f.path.dropLast _

theorem temporary_ne_path (f : GateFile) : f.temporary ≠ f.path := by
  by_cases hne : f.path = []
  · rw [hne]
    simp [temporary, beside]
  · obtain ⟨directory, name, hpath, -, -, htemporary⟩ := exists_eq_concat hne
    rw [htemporary, hpath]
    exact beside_ne

theorem temporary_ne_nil (f : GateFile) : f.temporary ≠ [] := by simp [temporary, beside]

/-- Nothing keeps a gate from being stored whose file and directories can be written. -/
theorem not_obstacle {t₁ : Tree} (hpaved : t.Paved f.path.dropLast t₁)
    (hleads : t₁.Leads [] f.path.dropLast) (hport : port.natAbs < 10 ^ maxDigits)
    (hnull : ∀ s ∈ f.path, ¬ hasNull s = true) (hin : t.at? f.path ≠ some .directory)
    (htemp : t.at? f.temporary ≠ some .directory) (e : GateError) : ¬ f.Obstacle port t e := by
  intro h
  cases h with
  | file hp hfile =>
    have hfile := hpaved.entry hfile
    have hmade := hleads.at? rfl hp
    rw [List.nil_append, hfile] at hmade
    cases hmade
  | directory h => exact hin h
  | temporary h => exact htemp h
  | port h => exact absurd h (Nat.not_le.2 hport)
  | null hs h => exact hnull _ hs h

theorem outcome_store (hdots : ".." ∉ f.path) (host : String) (port : Int) (t : Tree) :
    f.Outcome host port t (f.store host port t) := by
  by_cases hne : f.path = []
  · have hstore : f.store host port t = (.error (.unwritable f.shown), t) := by
      rw [store, hne]
      rfl
    rw [hstore]
    exact .stopped (.directory (by rw [hne]; rfl)) (.refl _ t)
  obtain ⟨directory, name, hpath, hdrop, hlast, htemporary⟩ := exists_eq_concat hne
  have hsteps : ".." ∉ directory := fun h => hdots (hpath ▸ List.mem_append_left _ h)
  have hname : name ≠ ".." := fun h => hdots (by simp [hpath, h])
  rw [store, hlast, hdrop]
  dsimp only
  split
  case isTrue hnull =>
    obtain ⟨s, hs, hnull⟩ := List.any_eq_true.1 hnull
    exact .stopped (.null (hpath ▸ List.mem_append_left _ hs) hnull) (.refl _ t)
  case isFalse hdirectory =>
  have hpaved := Tree.paved_makeDirectories hsteps (Tree.at?_nil t)
  have hcases := Tree.makeDirectories_cases hsteps (Tree.at?_nil t)
  rw [List.nil_append] at hpaved hcases
  rcases hmake : t.makeDirectories [] directory with ⟨t₁, made⟩
  rw [hmake] at hpaved hcases
  dsimp only at hpaved hcases ⊢
  rcases hcases with ⟨rfl, hleads⟩ | ⟨rfl, p, bytes, hway, hfile⟩
  case inr => exact .stopped (.file (hdrop ▸ hway) hfile) (hdrop ▸ hpaved)
  have hmade : t₁.at? directory = some .directory := hleads.at? rfl (List.prefix_refl _)
  rw [← hdrop] at hpaved hleads
  dsimp only
  split
  case h_1 herror => exact .stopped (.port (writeInteger_eq_error_iff.1 herror).1) hpaved
  case h_2 hport =>
  obtain ⟨hport, -⟩ := writeInteger_eq_ok_iff.1 hport
  split
  case isTrue hnull => exact .stopped (.null (by simp [hpath]) hnull) hpaved
  case isFalse hlast =>
  have hnull : ∀ s ∈ f.path, ¬ hasNull s = true := by
    rw [hpath]
    refine List.forall_mem_append.2 ⟨fun s hs h => ?_, List.forall_mem_singleton.2 hlast⟩
    exact hdirectory (List.any_eq_true.2 ⟨s, hs, h⟩)
  rw [replace_eq hname hmade, ← htemporary, ← hpath, hpaved.at?_eq f.temporary_off_way,
    hpaved.at?_eq (path_off_way hne)]
  by_cases htemp : t.at? f.temporary = some .directory
  · rw [if_pos htemp]
    exact .stopped (.temporary htemp) hpaved
  rw [if_neg htemp]
  by_cases hin : t.at? f.path = some .directory
  · rw [if_pos hin]
    exact .blocked hne hin htemp hpaved
  rw [if_neg hin]
  exact .stored hne (not_obstacle hpaved hleads hport hnull hin htemp) hpaved hleads

section

variable {bytes : List UInt8}

theorem at?_moved_path (hne : f.path ≠ []) : (f.moved bytes t).at? f.path = some (.file bytes) :=
  Tree.at?_put_self _ _ _ hne

theorem at?_moved_temporary (f : GateFile) (bytes : List UInt8) (t : Tree) :
    (f.moved bytes t).at? f.temporary = none := by
  rw [moved, Tree.at?_put_of_ne _ _ f.temporary_ne_path, Tree.at?_remove_self _ f.temporary_ne_nil]

theorem at?_moved_of_ne (hpath : p ≠ f.path) (htemporary : p ≠ f.temporary) :
    (f.moved bytes t).at? p = t.at? p := by
  rw [moved, Tree.at?_put_of_ne _ _ hpath, Tree.at?_remove_of_ne _ htemporary,
    Tree.at?_put_of_ne _ _ htemporary]

/-- The file lies in the directory that its new contents were written in. -/
theorem rooted_put_temporary (ht : t.Rooted) (hin : t.at? f.path.dropLast = some .directory)
    (htemp : t.at? f.temporary ≠ some .directory) : (t.put f.temporary (.file bytes)).Rooted := by
  refine ht.put f.temporary_ne_nil ?_ (.inr htemp)
  rwa [temporary, beside, List.dropLast_concat]

theorem rooted_moved (hne : f.path ≠ []) (ht : t.Rooted)
    (hin : t.at? f.path.dropLast = some .directory) (hpath : t.at? f.path ≠ some .directory)
    (htemp : t.at? f.temporary ≠ some .directory) : (f.moved bytes t).Rooted := by
  have hdrop : f.path.dropLast ≠ f.temporary := fun h => htemp (h ▸ hin)
  have hremoved : ((t.put f.temporary (.file bytes)).remove f.temporary).Rooted := by
    refine (rooted_put_temporary ht hin htemp).remove ?_
    rw [Tree.at?_put_self _ _ _ f.temporary_ne_nil]
    simp
  refine hremoved.put hne ?_ (.inr ?_)
  · rwa [Tree.at?_remove_of_ne _ hdrop, Tree.at?_put_of_ne _ _ hdrop]
  · rwa [Tree.at?_remove_of_ne _ f.temporary_ne_path.symm,
      Tree.at?_put_of_ne _ _ f.temporary_ne_path.symm]

end

namespace Outcome

variable {x : Except GateError FeederGate}

/-- No file but that of the gate and the one beside it is written. -/
theorem file (h : f.Outcome host port t (x, t')) (hpath : p ≠ f.path)
    (htemporary : p ≠ f.temporary) {bytes : List UInt8} (hp : t.at? p = some (.file bytes)) :
    t'.at? p = some (.file bytes) := by
  cases h with
  | stopped ho ht => exact ht.entry hp
  | blocked hne ho htemp ht =>
    rw [Tree.at?_put_of_ne _ _ htemporary]
    exact ht.entry hp
  | stored hne hfree ht hleads =>
    rw [at?_moved_of_ne hpath htemporary]
    exact ht.entry hp

theorem rooted (h : f.Outcome host port t (x, t')) (ht : t.Rooted) : t'.Rooted := by
  cases h with
  | stopped ho hpaved => exact hpaved.rooted ht
  | blocked hne ho htemp hpaved =>
    refine rooted_put_temporary (hpaved.rooted ht) (hpaved.entry (ht _ _ ho)) ?_
    rwa [hpaved.at?_eq f.temporary_off_way]
  | stored hne hfree hpaved hleads =>
    refine rooted_moved hne (hpaved.rooted ht) (hleads.at? rfl (List.prefix_refl _)) ?_ ?_
    · rw [hpaved.at?_eq (path_off_way hne)]
      exact fun h => hfree _ (.directory h)
    · rw [hpaved.at?_eq f.temporary_off_way]
      exact fun h => hfree _ (.temporary h)

/-- After a gate was stored, it is loaded. -/
theorem load (hdots : ".." ∉ f.path) {g : FeederGate} (h : f.Outcome host port t (.ok g, t'))
    {f' : GateFile} (hf : f'.path = f.path) : f'.load t' = .ok (some ⟨.text host, port⟩) := by
  cases h with
  | @stored t₁ hne hfree hpaved hleads =>
    have hport : port.natAbs < 10 ^ maxDigits := Nat.not_le.1 fun h => hfree _ (.port h)
    obtain ⟨directory, name, hpath, hdrop, -⟩ := exists_eq_concat hne
    have hsteps : ".." ∉ directory := fun h => hdots (hpath ▸ List.mem_append_left _ h)
    have hname : name ≠ ".." := fun h => hdots (by simp [hpath, h])
    -- The directories on the way are neither the file nor the one beside it.
    have hleads' : (f.moved (Text.Utf8.encode (contents host port)) t₁).Leads [] directory := by
      refine Tree.Leads.mono (fun p hp => ?_) (hdrop ▸ hleads)
      rwa [at?_moved_of_ne]
      · rintro rfl
        rw [hpaved.at?_eq (path_off_way hne)] at hp
        exact hfree _ (.directory hp)
      · rintro rfl
        rw [hpaved.at?_eq f.temporary_off_way] at hp
        exact hfree _ (.temporary hp)
    have hresolve := (Tree.resolve_eq_some_iff hsteps hname _ []).2 ⟨rfl, hleads', rfl⟩
    rw [List.nil_append, ← hpath] at hresolve
    rw [GateFile.load, hf, hresolve, Option.bind_some, at?_moved_path hne]
    simp only [readBytes_contents f' host hport]
    rfl

end Outcome

/-- What is loaded depends on what is at the place of the file. -/
theorem load_congr (hdots : ".." ∉ f.path) (ht : t.Rooted) (ht' : t'.Rooted)
    (h : t'.at? f.path = t.at? f.path) : f.load t' = f.load t := by
  rw [load, load, ht.bind_resolve hdots, ht'.bind_resolve hdots, h]

/-- Stores gates one after the other, whether that works or not. -/
def storeAll (f : GateFile) (gates : List (String × Int)) (t : Tree) : Tree :=
  gates.foldl (fun t g => (f.store g.1 g.2 t).2) t

/-- No file but that of the gate and the one beside it is ever written. -/
theorem storeAll_file (hdots : ".." ∉ f.path) (gates : List (String × Int)) (hpath : p ≠ f.path)
    (htemporary : p ≠ f.temporary) {bytes : List UInt8} (hp : t.at? p = some (.file bytes)) :
    (f.storeAll gates t).at? p = some (.file bytes) := by
  induction gates generalizing t with
  | nil => exact hp
  | cons g gates ih => exact ih ((outcome_store hdots g.1 g.2 t).file hpath htemporary hp)

/-- A gate is stored exactly if nothing keeps it from being. -/
theorem store_isOk_iff (hdots : ".." ∉ f.path) (host : String) (port : Int) (t : Tree) :
    (∃ g t', f.store host port t = (.ok g, t')) ↔ ∀ e, ¬ f.Obstacle port t e := by
  have h := outcome_store hdots host port t
  generalize f.store host port t = r at h
  cases h with
  | stopped ho ht => exact ⟨nofun, fun hfree => absurd ho (hfree _)⟩
  | blocked hne ho htemp ht => exact ⟨nofun, fun hfree => absurd (.directory ho) (hfree _)⟩
  | stored hne hfree ht hleads => exact ⟨fun _ => hfree, fun _ => ⟨_, _, rfl⟩⟩

/-- A gate that was stored is loaded again, by whoever loads from that place, whatever was there and
however often gates were stored before. The file beside it is gone, and all others are as they were.
A gate is stored unless something keeps it from being. -/
theorem stored_gate_is_loaded (hdots : ".." ∉ f.path) (t : Tree) (earlier : List (String × Int))
    (host : String) (port : Int) :
    ((∃ g t', f.store host port (f.storeAll earlier t) = (.ok g, t')) ↔
      ∀ e, ¬ f.Obstacle port (f.storeAll earlier t) e) ∧
    ∀ g t', f.store host port (f.storeAll earlier t) = (.ok g, t') →
      g = ⟨.text host, port⟩ ∧
      (∀ f' : GateFile, f'.path = f.path → f'.load t' = .ok (some ⟨.text host, port⟩)) ∧
      t'.at? f.temporary = none ∧
      ∀ p bytes, p ≠ f.path → p ≠ f.temporary → t.at? p = some (.file bytes) →
        t'.at? p = some (.file bytes) := by
  refine ⟨store_isOk_iff hdots host port _, fun g t' hstore => ?_⟩
  have h := outcome_store hdots host port (f.storeAll earlier t)
  rw [hstore] at h
  refine ⟨?gate, fun f' => h.load hdots, ?temporary, fun p bytes hpath htemporary hp =>
    h.file hpath htemporary (storeAll_file hdots earlier hpath htemporary hp)⟩
  case gate =>
    cases h
    rfl
  case temporary =>
    cases h
    exact f.at?_moved_temporary _ _

/-- A gate file in a directory of its own. -/
def kept : GateFile := ⟨["conf", "manager.json"], "conf/manager.json"⟩

/-- A leftover stands where new contents are written first. -/
def cluttered : Tree :=
  ((({} : Tree).put ["conf"] .directory).put ["conf", "manager.json.tmp"] (.file [0x78])).put
    ["conf", "other"] (.file [0x79])

theorem stored_gate_is_loaded_over_leftover :
    ".." ∉ kept.path ∧
    ∃ g t', kept.store "q\"\\\n\x01é😀" (-5) (kept.storeAll [("old", 1), ("", 0)] cluttered) = (.ok g, t') ∧
      kept.load t' = .ok (some ⟨.text "q\"\\\n\x01é😀", -5⟩) ∧
      t'.at? ["conf", "manager.json.tmp"] = none ∧
      t'.at? ["conf", "other"] = some (.file [0x79]) := by
  have hdots : ".." ∉ kept.path := by decide
  have hok : (kept.store "q\"\\\n\x01é😀" (-5)
      (kept.storeAll [("old", 1), ("", 0)] cluttered)).1.isOk = true := by decide +kernel
  rcases hstore : kept.store "q\"\\\n\x01é😀" (-5)
      (kept.storeAll [("old", 1), ("", 0)] cluttered) with ⟨x, t'⟩
  rw [hstore] at hok
  cases x with
  | error e => cases hok
  | ok g =>
    obtain ⟨-, hload, htemporary, hothers⟩ :=
      (stored_gate_is_loaded hdots cluttered [("old", 1), ("", 0)] _ _).2 g t' hstore
    exact ⟨hdots, g, t', rfl, hload kept rfl, htemporary,
      hothers _ _ (by decide) (by decide) (by decide)⟩

/-- What a gate that could not be stored leaves at the places of the tree. -/
theorem Outcome.failed (h : f.Outcome host port t (.error e, t')) :
    f.Obstacle port t e ∧
      (t'.at? f.path = t.at? f.path) ∧
      ∀ p, t'.at? p ≠ t.at? p →
        p = f.temporary ∧ (∃ bytes, t'.at? p = some (.file bytes)) ∨
          p <+: f.path.dropLast ∧ t.at? p = none ∧ t'.at? p = some .directory := by
  cases h with
  | stopped ho hpaved =>
    refine ⟨ho, ?_, fun p hp => .inr ((hpaved.change p).resolve_left hp)⟩
    by_cases hne : f.path = []
    · rw [hne, Tree.at?_nil, Tree.at?_nil]
    · exact hpaved.at?_eq (path_off_way hne)
  | @blocked t₁ bytes hne ho htemp hpaved =>
    refine ⟨.directory ho, ?_, fun p hp => ?_⟩
    · rw [Tree.at?_put_of_ne _ _ f.temporary_ne_path.symm, hpaved.at?_eq (path_off_way hne)]
    · by_cases htemporary : p = f.temporary
      · exact .inl ⟨htemporary, bytes, by
          rw [htemporary, Tree.at?_put_self _ _ _ f.temporary_ne_nil]⟩
      · rw [Tree.at?_put_of_ne _ _ htemporary] at hp ⊢
        exact .inr ((hpaved.change p).resolve_left hp)

/-- A gate is not stored exactly if something keeps it from being. -/
theorem store_isError_iff (hdots : ".." ∉ f.path) (host : String) (port : Int) (t : Tree) :
    (∃ e t', f.store host port t = (.error e, t')) ↔ ∃ e, f.Obstacle port t e := by
  have hok := store_isOk_iff hdots host port t
  have h := outcome_store hdots host port t
  generalize f.store host port t = r at h hok
  obtain ⟨e | g, t'⟩ := r
  · exact ⟨fun _ => ⟨e, h.failed.1⟩, fun _ => ⟨e, t', rfl⟩⟩
  · exact ⟨nofun, fun ⟨e, he⟩ => absurd he (hok.1 ⟨g, t', rfl⟩ e)⟩

/-- A gate that could not be stored leaves what is loaded as it was, and so every file but the one
beside it. Only that one and missing directories on the way may have come. It is not stored exactly
if something keeps it from being, and one of these things is told. -/
theorem failed_store_loses_nothing (hdots : ".." ∉ f.path) (ht : t.Rooted) (host : String)
    (port : Int) :
    ((∃ e t', f.store host port t = (.error e, t')) ↔ ∃ e, f.Obstacle port t e) ∧
    ∀ e t', f.store host port t = (.error e, t') →
      f.Obstacle port t e ∧ f.load t' = f.load t ∧
      (∀ p bytes, p ≠ f.temporary → t.at? p = some (.file bytes) → t'.at? p = some (.file bytes)) ∧
      (∀ p, t'.at? p ≠ t.at? p →
        p = f.temporary ∧ (∃ bytes, t'.at? p = some (.file bytes)) ∨
          p <+: f.path.dropLast ∧ t.at? p = none ∧ t'.at? p = some .directory) ∧
      t'.Rooted := by
  refine ⟨store_isError_iff hdots host port t, fun e t' hstore => ?_⟩
  have h := outcome_store hdots host port t
  rw [hstore] at h
  obtain ⟨hobstacle, hpath, hchange⟩ := h.failed
  refine ⟨hobstacle, load_congr hdots ht (h.rooted ht) hpath, fun p bytes htemporary hp => ?_,
    hchange, h.rooted ht⟩
  by_contra hne
  rcases hchange p (hp ▸ hne) with ⟨heq, -⟩ | ⟨-, hnone, -⟩
  · exact htemporary heq
  · rw [hp] at hnone
    cases hnone

/-- A gate is kept in its file, and a directory stands where new contents are written first. -/
def hindered : Tree :=
  ((({} : Tree).put ["conf"] .directory).put ["conf", "manager.json.tmp"] .directory).put
    ["conf", "manager.json"] (.file (Text.Utf8.encode (contents "old" 1)))

theorem failed_store_loses_nothing_hindered :
    ".." ∉ kept.path ∧ hindered.Rooted ∧
    ∃ t', kept.store "new" 2 hindered = (.error (.unwritable "conf/manager.json"), t') ∧
      kept.load t' = .ok (some ⟨.text "old", 1⟩) ∧ t'.Rooted := by
  have hdots : ".." ∉ kept.path := by decide
  have hrooted : hindered.Rooted :=
    ((Tree.rooted_empty.put (by decide) (by decide) (.inl rfl)).put (by decide) (by decide)
      (.inl rfl)).put (by decide) (by decide) (.inr (by decide))
  have hport : (1 : Int).natAbs < 10 ^ maxDigits := Nat.one_lt_pow (by decide) (by decide)
  have hload : kept.load hindered = .ok (some ⟨.text "old", 1⟩) := by
    rw [load, hrooted.bind_resolve hdots]
    exact congrArg (Except.map some) (readBytes_contents kept "old" hport)
  obtain ⟨hiff, hfailed⟩ := failed_store_loses_nothing hdots hrooted "new" 2
  obtain ⟨e, t', hstore⟩ := hiff.2 ⟨_, .temporary (by decide)⟩
  obtain ⟨hobstacle, hsame, -, -, hrooted'⟩ := hfailed e t' hstore
  have htold : e = .unwritable "conf/manager.json" := by
    cases hobstacle with
    | port h =>
      have hten : 10 ^ 1 ≤ 10 ^ maxDigits := Nat.pow_le_pow_right (by decide) (by decide)
      exact absurd (hten.trans h) (by decide)
    | null hs h =>
      exact absurd (List.any_eq_true.2 ⟨_, hs, h⟩) (by decide : ¬ kept.path.any hasNull)
    | _ => rfl
  exact ⟨hdots, hrooted, t', htold ▸ hstore, hsame.trans hload, hrooted'⟩

end ConnectorHub.GateFile
