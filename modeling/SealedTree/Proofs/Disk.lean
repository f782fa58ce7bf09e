import SealedTree.Disk
import SealedTree.Proofs.Success

/-!
A file that was written is read. What is written is no directory, so no directory on the way to it
is lost, and the path leads to it afterwards as it did before.
-/

namespace SealedTree

namespace Disk

variable {d : Disk} {p q r : Path} {content : ByteArray}

theorem file?_put_of_ne (other : q ≠ p) : (d.put p content).file? q = d.file? q := by
  rw [put, file?, file?, List.lookup_cons, beq_false_of_ne other]
  dsimp only
  induction d.files with
  | nil => rfl
  | cons f rest ih =>
      by_cases dropped : f.1 = p
      · rw [List.filter_cons_of_neg (by simp [dropped]), ih, List.lookup_cons,
          beq_false_of_ne (dropped ▸ other)]
      · rw [List.filter_cons_of_pos (by simp [dropped]), List.lookup_cons, List.lookup_cons, ih]

theorem isDirectory_put (h : d.isDirectory q = true) : (d.put p content).isDirectory q = true := by
  rw [isDirectory, Bool.or_eq_true] at h ⊢
  refine h.imp_right fun inside => ?_
  obtain ⟨f, among, below⟩ := List.any_eq_true.mp inside
  refine List.any_eq_true.mpr ?_
  by_cases replaced : f.1 = p
  · exact ⟨(p, content), List.mem_cons_self, replaced ▸ below⟩
  · exact ⟨f, List.mem_cons_of_mem _ (List.mem_filter.mpr ⟨among, by simp [replaced]⟩), below⟩

theorem isDirectory_of_enter {name : String} (h : d.enter q name = .ok r) :
    d.file? q = none ∧ d.isDirectory q = true := by
  rw [enter] at h
  split at h
  · cases h
  · next noFile =>
      split at h
      · cases h
      · next directory =>
          exact ⟨by simpa using noFile, by simpa using directory⟩

theorem enter_here (h : d.enter q "." = .ok r) : r = q := by
  obtain ⟨noFile, directory⟩ := isDirectory_of_enter h
  rw [enter, noFile, directory] at h
  exact (Except.ok.inj h).symm

/-- Writing a file leaves the ways through directories as they are. -/
theorem enter_put (free : d.isDirectory p = false) {name : String} (h : d.enter q name = .ok r) :
    (d.put p content).enter q name = .ok r := by
  obtain ⟨noFile, directory⟩ := isDirectory_of_enter h
  have other : q ≠ p := by
    rintro rfl
    rw [directory] at free
    cases free
  rw [enter, noFile, directory] at h
  rw [enter, file?_put_of_ne other, noFile, isDirectory_put directory]
  exact h

theorem walk_put (free : d.isDirectory p = false) {names : List String}
    (h : d.walk q names = .ok r) : (d.put p content).walk q names = .ok r := by
  induction names generalizing q with
  | nil => exact h
  | cons name rest ih =>
      rw [walk] at h ⊢
      obtain ⟨next, entered, walked⟩ := Except.bind_eq_ok.mp h
      exact Except.bind_eq_ok.mpr ⟨next, enter_put free entered, ih walked⟩

theorem walk_append {first rest : List String} (h : d.walk p first = .ok q) :
    d.walk p (first ++ rest) = d.walk q rest := by
  induction first generalizing p with
  | nil =>
      cases h
      rfl
  | cons name first ih =>
      rw [walk] at h
      obtain ⟨next, entered, walked⟩ := Except.bind_eq_ok.mp h
      rw [List.cons_append, walk, entered]
      exact ih walked

theorem isDirectory_origin (text : String) : d.isDirectory (origin text) = true := by
  rw [origin]
  split
  · rfl
  · rfl

/-- What a path has to be for a file to be written there. -/
theorem walk_of_target {text : String} (h : d.target text = .ok p) :
    checkLength text = .ok () ∧ meansDirectory text = false ∧ d.isDirectory p = false ∧
      d.walk (origin text) (names text) = .ok p := by
  rw [target] at h
  obtain ⟨_, fits, afterLength⟩ := Except.bind_eq_ok.mp h
  obtain ⟨directory, walked, afterWalk⟩ := Except.bind_eq_ok.mp afterLength
  obtain ⟨here, entered, rest⟩ := Except.bind_eq_ok.mp afterWalk
  obtain rfl := enter_here entered
  dsimp only at rest
  split at rest
  · cases rest
  next file =>
  obtain ⟨last, reached, result⟩ := Except.bind_eq_ok.mp rest
  split at result
  · cases result
  next free =>
  cases result
  refine ⟨fits, by simpa using file, by simpa using free, ?_⟩
  rcases List.eq_nil_or_concat (names text) with none | ⟨first, name, named⟩
  · rw [none] at walked reached
    cases walked
    rw [enter_here reached, isDirectory_origin] at free
    exact absurd rfl free
  · rw [List.concat_eq_append] at named
    rw [named, List.dropLast_concat] at walked
    rw [named, List.getLast?_concat] at reached
    rw [named, walk_append walked, walk]
    exact Except.bind_eq_ok.mpr ⟨p, reached, rfl⟩

/-- A file that was written is read. -/
theorem read_of_write {d' : Disk} {text : String} (h : d.write text content = .ok d') :
    d'.read text = .ok content := by
  rw [write] at h
  cases reached : d.target text with
  | error fault =>
      rw [reached] at h
      cases h
  | ok p =>
      rw [reached] at h
      obtain rfl := (Except.ok.inj h).symm
      obtain ⟨fits, file, free, walked⟩ := walk_of_target reached
      rw [read, fits]
      refine Except.bind_eq_ok.mpr ⟨(), rfl, Except.bind_eq_ok.mpr ⟨p, walk_put free walked, ?_⟩⟩
      rw [file?_put, file]
      rfl

end Disk

end SealedTree
