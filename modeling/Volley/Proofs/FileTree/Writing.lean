import Volley.FileTree

/-!
# Writing and reading files

What is written to a path is what stands there afterwards: the path leads through the same folders
as before, because the file is put where no folder stands.

## Main results

- `FileTree.at?_setEntry`: an entry changes its own place only.
- `FileTree.textAt?_write`: a file that was written holds what was written.
-/

namespace Volley

namespace FileTree

variable {α : Type} {t t' : FileTree α}

theorem at?_setEntry {place : List String} {entry : Entry α} (free : t.at? place ≠ some .folder)
    (other : List String) :
    (t.setEntry place entry).at? other = if place = other then some entry else t.at? other := by
  by_cases here : place = other
  · subst here
    -- A place without a folder is neither the root nor the current folder or one above it.
    have inside : ¬ ((isOutside place || place == root) = true) := by
      intro outer
      exact free (if_pos outer)
    rw [if_pos rfl, at?, if_neg inside, setEntry, Assoc.find?_set, if_pos rfl]
  · rw [if_neg here]
    unfold at? setEntry
    rw [Assoc.find?_set, if_neg here]

theorem follow_setEntry {place : List String} {entry : Entry α}
    (free : t.at? place ≠ some .folder) (start parts : List String)
    (leads : t.follow start parts = .place place) :
    (t.setEntry place entry).follow start parts = .place place := by
  -- By induction on the components; the path only comes through folders.
  induction parts generalizing start with
  | nil => exact leads
  | cons part rest ih =>
    unfold follow at leads ⊢
    cases stands : t.at? start with
    | none => simp [stands] at leads
    | some found =>
      cases found with
      | text content => simp [stands] at leads
      | scenarios content => simp [stands] at leads
      | folder =>
        have other : place ≠ start := by
          rintro rfl
          exact free stands
        have same : (t.setEntry place entry).at? start = some .folder := by
          rw [at?_setEntry free, if_neg other, stands]
        simp only [stands] at leads
        simp only [same]
        by_cases long : Path.maxComponentBytes < part.utf8ByteSize
        · simp [long] at leads
        · rw [if_neg long] at leads ⊢
          exact ih _ leads

/-- A file that was written holds what was written. -/
theorem textAt?_write {p : Path} {content : String} (written : t.write p content = .ok t') :
    t'.textAt? p = some content := by
  unfold write at written
  split at written
  · cases written
  · split at written
    case h_4 place leads =>
      have free : t.at? place ≠ some .folder := by
        intro folder
        rw [folder] at written
        cases written
      have put : t.setEntry place (.text content) = t' := by
        split at written
        · cases written
        · exact Except.ok.inj written
      subst put
      have leads' : (t.setEntry place (.text content)).locate p = .place place := by
        unfold locate at leads ⊢
        split at leads
        · cases leads
        · next short =>
          rw [if_neg short]
          exact follow_setEntry free _ _ leads
      simp [textAt?, entry?, leads', at?_setEntry free]
    all_goals cases written

end FileTree

end Volley
