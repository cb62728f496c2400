import EscapeTime.Graymap.Writer
import Mathlib.Tactic.Common

/-!
# Written files

A write that succeeds leaves the header and the pixels at the path, whatever was there before, and
no other file is touched. The path still leads to the same place afterwards, so reading it gives
the bytes that were written.
-/

namespace EscapeTime.Proofs
open Graymap

/-- Every directory of one tree is a directory of the other. -/
def KeepsDirectories (t u : Tree) : Prop :=
  ∀ place, t.find? place = some .directory → u.find? place = some .directory

lemma enter_keeps {t u : Tree} (hkeep : KeepsDirectories t u) {dir next : Place} {name : String}
    (h : t.enter dir name = .ok next) : u.enter dir name = .ok next := by
  unfold Tree.enter at h ⊢
  split at h
  · rename_i hdot
    rw [if_pos hdot]
    exact h
  · rename_i hdot
    rw [if_neg hdot]
    split at h
    · rename_i hup
      rw [if_pos hup]
      exact h
    · rename_i hup
      rw [if_neg hup]
      split at h
      · cases h
      · rename_i hlong
        rw [if_neg hlong]
        split at h
        · cases h
        · rename_i hfind
          rw [hkeep _ hfind]
          exact h
        · cases h

lemma descend_keeps {t u : Tree} (hkeep : KeepsDirectories t u) (names : List String)
    (dir last : Place) (h : t.descend dir names = .ok last) : u.descend dir names = .ok last := by
  induction names generalizing dir with
  | nil => exact h
  | cons name names ih =>
    rw [Tree.descend] at h ⊢
    cases hstep : t.enter dir name with
    | error e => rw [hstep] at h; cases h
    | ok next =>
      rw [hstep] at h
      rw [enter_keeps hkeep hstep]
      exact ih next h

/-- A path that leads to a place still does so when no directory has gone. -/
lemma locate_keeps {t u : Tree} (hkeep : KeepsDirectories t u) (hwork : u.work = t.work)
    {path : String} {place : Place} (h : t.locate path = .ok place) : u.locate path = .ok place := by
  unfold Tree.locate at h ⊢
  rw [hwork]
  cases hparse : Path.parse path with
  | error e => rw [hparse] at h; cases h
  | ok p =>
    rw [hparse] at h
    dsimp only at h ⊢
    cases hdescend : t.descend (if p.absolute then [] else t.work) p.names.dropLast with
    | error e => rw [hdescend] at h; cases h
    | ok dir =>
      rw [hdescend] at h
      rw [descend_keeps hkeep _ _ _ hdescend]
      exact h

lemma locate_ne_nil {t : Tree} {path : String} {place : Place} (h : t.locate path = .ok place) :
    place ≠ [] := by
  unfold Tree.locate at h
  repeat' split at h
  all_goals cases h
  exact List.append_ne_nil_of_right_ne_nil _ (List.cons_ne_nil _ _)

lemma openEmpty_file {t opened : Tree} {path : String} {place : Place}
    (h : t.openEmpty path = .ok (opened, .file place)) :
    t.locate path = .ok place ∧ t.find? place ≠ some .directory ∧
      opened = t.put place (.file []) := by
  unfold Tree.openEmpty at h
  cases hlocate : t.locate path with
  | error e => rw [hlocate] at h; cases h
  | ok found =>
    rw [hlocate] at h
    dsimp only at h
    split at h
    · cases h
    · cases h
    · rename_i hfind
      cases h
      exact ⟨rfl, by rw [hfind]; simp, rfl⟩
    · rename_i hfind
      cases h
      exact ⟨rfl, by rw [hfind]; simp, rfl⟩

lemma contentAt_put (t : Tree) {place : Place} (hplace : place ≠ []) (content : List UInt8) :
    (t.put place (.file content)).contentAt place = content := by
  unfold Tree.contentAt
  rw [Tree.find?_put t place place _ hplace, if_pos rfl]

lemma resized_header (header : List UInt8) (room : Nat) :
    header.take (header.length + room) ++ List.replicate (header.length + room - header.length) 0 =
      header ++ List.replicate room 0 := by
  rw [Nat.add_sub_cancel_left, List.take_of_length_le (Nat.le_add_right _ _)]

lemma overwritten_room (header pixels : List UInt8) :
    let sized := header ++ List.replicate pixels.length 0
    sized.take header.length ++ pixels ++ sized.drop (header.length + pixels.length) =
      header ++ pixels := by
  dsimp only
  rw [List.take_left, List.drop_of_length_le (by simp), List.append_nil]

def lateEnd (path : String) : Option LateFault → Except Failure Unit
  | none => .ok ()
  | some fault => .error (failedStep fault.step.writeStep path fault.number)

/-- What a file is left with: zeros in place of the pixels if they could not be mapped. -/
def lateContent (g : Graymap) : Option LateFault → List UInt8
  | some ⟨.map, _⟩ => headerBytes g.width g.height ++ List.replicate g.pixels.size 0
  | _ => g.encode

/-- A checked image is written wherever a regular file can be opened, as far as the late steps allow:
the file then holds the image, or zeros after its header, and every other place is as before. -/
theorem save_file {t opened : Tree} {path : String} {g : Graymap} {place : Place}
    (late? : Option LateFault) (hcheck : g.check = .ok ())
    (hopen : t.openEmpty path = .ok (opened, .file place)) :
    (save t path g late?).2 = lateEnd path late? ∧ (save t path g late?).1.work = t.work ∧
      ∀ other, (save t path g late?).1.find? other =
        if other = place then some (.file (lateContent g late?)) else t.find? other := by
  obtain ⟨hlocate, -, rfl⟩ := openEmpty_file hopen
  have hplace := locate_ne_nil hlocate
  have hbytes := overwritten_room (headerBytes g.width g.height) g.pixels.toList
  have hsize : g.pixels.size = g.pixels.toList.length := rfl
  dsimp only at hbytes
  unfold save
  rw [hcheck, hopen]
  simp only [Tree.append, Tree.resize, contentAt_put _ hplace, List.nil_append, resized_header]
  unfold copyPixels
  simp only [Tree.overwrite, contentAt_put _ hplace, hsize, hbytes]
  refine ⟨?_, ?_, fun other => ?_⟩
  · cases late? <;> rfl
  · rcases late? with _ | ⟨_ | _ | _ | _, number⟩ <;> rfl
  · rcases late? with _ | ⟨_ | _ | _ | _, number⟩ <;>
      simp only [reduceIte, reduceCtorEq, lateContent, encode, Tree.find?_put _ place _ _ hplace] <;>
      split <;> rfl

/-- A write takes no directory away: it goes where there was none. -/
lemma save_keeps {t opened : Tree} {path : String} {g : Graymap} {place : Place}
    (late? : Option LateFault) (hcheck : g.check = .ok ())
    (hopen : t.openEmpty path = .ok (opened, .file place)) :
    KeepsDirectories t (save t path g late?).1 := by
  obtain ⟨-, -, hfind⟩ := save_file late? hcheck hopen
  obtain ⟨-, hdir, -⟩ := openEmpty_file hopen
  intro other hother
  rw [hfind, if_neg (fun heq : other = place => hdir (heq ▸ hother))]
  exact hother

/-- What a successful write needed: an image that passes the check, a regular file to open, and no fault
later on. -/
lemma save_eq_ok {t : Tree} {path : String} {g : Graymap} {late? : Option LateFault}
    (h : (save t path g late?).2 = .ok ()) :
    g.check = .ok () ∧ late? = none ∧ ∃ opened place, t.openEmpty path = .ok (opened, .file place) := by
  unfold save at h
  cases hcheck : g.check with
  | error f => rw [hcheck] at h; cases h
  | ok _ =>
    rw [hcheck] at h
    dsimp only at h
    cases hopen : t.openEmpty path with
    | error e => rw [hopen] at h; cases h
    | ok result =>
      obtain ⟨opened, handle⟩ := result
      rw [hopen] at h
      cases handle with
      | file place =>
        cases late? with
        | none => exact ⟨rfl, rfl, opened, place, rfl⟩
        | some fault => cases h
      | device d => cases d <;> cases h

/-- What a failed write came to: the check refused the image and the tree is as before, or one of
the steps on the path was refused. -/
lemma save_eq_error {t : Tree} {path : String} {g : Graymap} {late? : Option LateFault} {f : Failure}
    (h : (save t path g late?).2 = .error f) :
    (g.check = .error f ∧ (save t path g late?).1 = t) ∨
      g.check = .ok () ∧ ∃ step number, f = failedStep step path number := by
  unfold save at h ⊢
  cases hcheck : g.check with
  | error refusal =>
    rw [hcheck] at h
    cases h
    exact .inl ⟨rfl, rfl⟩
  | ok _ =>
    refine .inr ⟨rfl, ?_⟩
    rw [hcheck] at h
    dsimp only at h
    cases hopen : t.openEmpty path with
    | error e =>
      rw [hopen] at h
      cases h
      exact ⟨_, e, rfl⟩
    | ok result =>
      obtain ⟨opened, handle⟩ := result
      rw [hopen] at h
      cases handle with
      | file place =>
        cases late? with
        | none => cases h
        | some fault => cases h; exact ⟨_, _, rfl⟩
      | device d =>
        cases d with
        | null => cases h; exact ⟨_, _, rfl⟩
        | full => cases h; exact ⟨_, _, rfl⟩

theorem read?_save {t : Tree} {path : String} {g : Graymap} (h : (save t path g).2 = .ok ()) :
    (save t path g).1.read? path = some g.encode := by
  obtain ⟨hcheck, -, opened, place, hopen⟩ := save_eq_ok h
  obtain ⟨-, hwork, hfind⟩ := save_file none hcheck hopen
  obtain ⟨hlocate, -, -⟩ := openEmpty_file hopen
  unfold Tree.read?
  rw [locate_keeps (save_keeps none hcheck hopen) hwork hlocate]
  dsimp only
  rw [hfind, if_pos rfl]
  rfl

end EscapeTime.Proofs
