import EscapeTime.Proofs.FailureKinds

/-!
# Writes are all or nothing

An image is checked before its path is looked at, and a path that opens as a regular file is written to
the end: what stops a write stops it before the tree has changed. A write that fails therefore leaves the
tree as it was, and one that succeeds changes the file at its path and nothing else.
-/

namespace EscapeTime.Proofs
open Graymap

/-- What stops a write at a path: there is no place for a file, a directory stands there, or a device
that has no room or no length. -/
inductive Obstructed (t : Tree) (path : String) : WriteStep → Errno → Prop where
  | noPlace {number : Errno} : t.locate path = .error number → Obstructed t path .openFile number
  | directory {place : Place} : t.locate path = .ok place → t.find? place = some .directory →
      Obstructed t path .openFile .isDirectory
  | full {place : Place} : t.locate path = .ok place → t.find? place = some (.device .full) →
      Obstructed t path .writeHeader .noSpace
  | null {place : Place} : t.locate path = .ok place → t.find? place = some (.device .null) →
      Obstructed t path .resize .invalidArgument

/-- The path leads to a regular file or to nothing. -/
def Writable (t : Tree) (path : String) (place : Place) : Prop :=
  t.locate path = .ok place ∧ (t.find? place = none ∨ ∃ old, t.find? place = some (.file old))

/-- The file at the path holds the bytes, whatever it held before, and no other place has changed. -/
structure Replaced (t after : Tree) (path : String) (place : Place) (bytes : List UInt8) : Prop where
  writable : Writable t path place
  leads : after.locate path = .ok place
  holds : after.find? place = some (.file bytes)
  elsewhere : ∀ other, other ≠ place → after.find? other = t.find? other
  work_eq : after.work = t.work

lemma obstructed_or_writable (t : Tree) (path : String) :
    (∃ step number, Obstructed t path step number) ∨ ∃ place, Writable t path place := by
  cases hlocate : t.locate path with
  | error number => exact .inl ⟨_, number, .noPlace hlocate⟩
  | ok place =>
    cases hfind : t.find? place with
    | none => exact .inr ⟨place, hlocate, .inl hfind⟩
    | some node =>
      cases node with
      | directory => exact .inl ⟨_, _, .directory hlocate hfind⟩
      | file old => exact .inr ⟨place, hlocate, .inr ⟨old, hfind⟩⟩
      | device d =>
        cases d with
        | null => exact .inl ⟨_, _, .null hlocate hfind⟩
        | full => exact .inl ⟨_, _, .full hlocate hfind⟩

/-- A path is stopped at one step and for one reason. -/
lemma obstructed_unique {t : Tree} {path : String} {step step' : WriteStep} {number number' : Errno}
    (h : Obstructed t path step number) (h' : Obstructed t path step' number') :
    step' = step ∧ number' = number := by
  cases h <;> cases h' <;> simp_all

lemma not_obstructed {t : Tree} {path : String} {place : Place} (h : Writable t path place)
    (step : WriteStep) (number : Errno) : ¬Obstructed t path step number := by
  obtain ⟨hlocate, hfind⟩ := h
  intro hstop
  cases hstop <;> simp_all

lemma openEmpty_of_writable {t : Tree} {path : String} {place : Place} (h : Writable t path place) :
    t.openEmpty path = .ok (t.put place (.file []), .file place) := by
  obtain ⟨hlocate, hnone | ⟨old, hfile⟩⟩ := h
  · simp [Tree.openEmpty, hlocate, hnone]
  · simp [Tree.openEmpty, hlocate, hfile]

/-- A stopped write ends where it is stopped, before anything is changed. -/
lemma save_of_obstructed {t : Tree} {path : String} {g : Graymap} {step : WriteStep} {number : Errno}
    (hcheck : g.check = .ok ()) (h : Obstructed t path step number) :
    save t path g = (t, .error (failedStep step path number)) := by
  unfold save Tree.openEmpty
  rw [hcheck]
  cases h with
  | noPlace hlocate => rw [hlocate]
  | directory hlocate hfind | full hlocate hfind | null hlocate hfind =>
    simp [hlocate, hfind, Tree.append, Tree.resize]

lemma save_of_writable {t : Tree} {path : String} {g : Graymap} {place : Place}
    (hcheck : g.check = .ok ()) (h : Writable t path place) :
    (save t path g).2 = .ok () ∧ Replaced t (save t path g).1 path place g.encode := by
  have hopen := openEmpty_of_writable h
  obtain ⟨hok, hwork, hfind⟩ := save_file none hcheck hopen
  refine ⟨hok, h, locate_keeps (save_keeps none hcheck hopen) hwork h.1, ?_, ?_, hwork⟩
  · rw [hfind, if_pos rfl]
    rfl
  · intro other hother
    rw [hfind, if_neg hother]

/-- The law of a write that was to leave certain `content` at a path. It succeeds exactly when there is
such content and nothing stops it at the path. If it fails the whole tree is as before, and a fault of a
step names that step, the path and the reason; if it succeeds the file at the path is the content and
every other place is as before. -/
structure AllOrNothing {α : Type} (t : Tree) (path : String) (content : List UInt8 → Prop)
    (after : Tree) (ending : Except Abort α) : Prop where
  succeeds_iff : (∃ a, ending = .ok a) ↔
    (∃ bytes, content bytes) ∧ ∀ step number, ¬Obstructed t path step number
  nothing : ∀ a, ending = .error a → after = t
  all : ∀ a, ending = .ok a → ∃ bytes place, content bytes ∧ Replaced t after path place bytes
  stopped : ∀ bytes step number, content bytes → Obstructed t path step number →
    ∃ f, ending = .error (.failure f) ∧ f.writeFault? = some ⟨step, path, .system number⟩
  reported : ∀ f fault, ending = .error (.failure f) → f.writeFault? = some fault →
    ∃ step number, Obstructed t path step number ∧ fault = ⟨step, path, .system number⟩

section Endings
variable {α : Type} {t after : Tree} {path : String} {content : List UInt8 → Prop}

/-- Nothing was to be written. -/
lemma allOrNothing_refused {a : Abort} (hcontent : ∀ bytes, ¬content bytes)
    (hfault : ∀ f, a = .failure f → f.writeFault? = none) :
    AllOrNothing (α := α) t path content t (.error a) where
  succeeds_iff := by simp [hcontent]
  nothing _ _ := rfl
  all := by rintro a ⟨⟩
  stopped bytes step number hbytes _ := absurd hbytes (hcontent bytes)
  reported f fault hf hfaulty := by
    cases hf
    rw [hfault f rfl] at hfaulty
    cases hfaulty

lemma allOrNothing_stopped {step : WriteStep} {number : Errno} {f : Failure}
    (hstop : Obstructed t path step number)
    (hfault : f.writeFault? = some ⟨step, path, .system number⟩) :
    AllOrNothing (α := α) t path content t (.error (.failure f)) where
  succeeds_iff := by
    constructor
    · rintro ⟨a, ⟨⟩⟩
    · rintro ⟨-, hfree⟩
      exact absurd hstop (hfree step number)
  nothing _ _ := rfl
  all := by rintro a ⟨⟩
  stopped bytes' step' number' _ hstop' := by
    obtain ⟨rfl, rfl⟩ := obstructed_unique hstop hstop'
    exact ⟨f, rfl, hfault⟩
  reported f' fault hf hfaulty := by
    cases hf
    cases hfault.symm.trans hfaulty
    exact ⟨step, number, hstop, rfl⟩

lemma allOrNothing_written {a : α} {bytes : List UInt8} {place : Place} (hcontent : content bytes)
    (h : Replaced t after path place bytes) : AllOrNothing t path content after (.ok a) where
  succeeds_iff := ⟨fun _ => ⟨⟨bytes, hcontent⟩, not_obstructed h.writable⟩, fun _ => ⟨a, rfl⟩⟩
  nothing := by rintro a ⟨⟩
  all _ _ := ⟨bytes, place, hcontent, h⟩
  stopped _ step number _ hstop := absurd hstop (not_obstructed h.writable step number)
  reported := by rintro f fault ⟨⟩

/-- What a write gives back when it succeeds plays no part in the law. -/
lemma allOrNothing_map {β : Type} {ending : Except Abort α} (f : α → β)
    (h : AllOrNothing t path content after ending) :
    AllOrNothing t path content after (ending.map f) := by
  cases ending with
  | error a =>
    refine ⟨?_, fun _ _ => h.nothing a rfl, by rintro b ⟨⟩, ?_, ?_⟩
    · exact ⟨by rintro ⟨b, ⟨⟩⟩, fun hfree => absurd (h.succeeds_iff.mpr hfree) (by simp)⟩
    · intro bytes step number hbytes hstop
      obtain ⟨g, hg, hfault⟩ := h.stopped bytes step number hbytes hstop
      cases hg
      exact ⟨g, rfl, hfault⟩
    · intro g fault hg hfault
      cases hg
      exact h.reported g fault rfl hfault
  | ok a =>
    obtain ⟨bytes, place, hcontent, hreplaced⟩ := h.all a rfl
    exact allOrNothing_written hcontent hreplaced

end Endings

/-- What an image leaves in a file: its header and its pixels, if they fit each other. -/
def ImageContent (g : Graymap) (bytes : List UInt8) : Prop :=
  g.check = .ok () ∧ bytes = headerBytes g.width g.height ++ g.pixels.toList

/-- What a render leaves in a file: header and pixels of the raster that is drawn. -/
def DrawnContent (r : Renderer) (budget rows : Int64) (bytes : List UInt8) : Prop :=
  ∃ raster pixels, (r.draw budget rows).outcome = .ok raster ∧ raster.pixels = some pixels ∧
    bytes = headerBytes (Int64.ofNat raster.width) (Int64.ofNat raster.height) ++ pixels.toList

lemma check_no_fault {g : Graymap} {f : Failure} (h : g.check = .error f) : f.writeFault? = none := by
  unfold check at h
  split at h
  · cases h
    rfl
  · split at h
    · cases h
      rfl
    · cases h

theorem save_allOrNothing (t : Tree) (path : String) (g : Graymap) :
    AllOrNothing t path (ImageContent g) (save t path g).1 (Renderer.fallible (save t path g).2) := by
  cases hcheck : g.check with
  | error f =>
    have hsave : save t path g = (t, .error f) := by rw [save, hcheck]
    rw [hsave]
    refine allOrNothing_refused ?_ ?_
    · rintro bytes ⟨hok, -⟩
      rw [hcheck] at hok
      cases hok
    · intro f' hf
      cases hf
      exact check_no_fault hcheck
  | ok _ =>
    rcases obstructed_or_writable t path with ⟨step, number, hstop⟩ | ⟨place, hplace⟩
    · rw [save_of_obstructed hcheck hstop]
      exact allOrNothing_stopped hstop rfl
    · obtain ⟨hok, hreplaced⟩ := save_of_writable hcheck hplace
      rw [hok]
      exact allOrNothing_written ⟨hcheck, rfl⟩ hreplaced

lemma draw_no_fault {r : Renderer} {budget rows : Int64} {f : Failure}
    (h : (r.draw budget rows).outcome = .error (.failure f)) : f.writeFault? = none := by
  rcases draw_failure h with ⟨base, -, hblames⟩ | ⟨rfl, -⟩
  · exact hblames.no_fault
  · rfl

theorem render_allOrNothing (r : Renderer) (t : Tree) (path : String) (budget rows : Int64) :
    AllOrNothing t path (DrawnContent r budget rows) (r.render t path budget rows).1
      (r.render t path budget rows).2.outcome := by
  unfold Renderer.render
  dsimp only
  cases hdraw : (r.draw budget rows).outcome with
  | error a =>
    refine allOrNothing_refused ?_ ?_
    · rintro bytes ⟨raster, pixels, hok, -⟩
      rw [hdraw] at hok
      cases hok
    · intro f hf
      exact draw_no_fault (hf ▸ hdraw)
  | ok raster =>
    -- A drawn raster has its pixels, so the check passes and only the path decides.
    obtain ⟨-, -, -, -, -, pixels, -, hpixels, -⟩ := draw_eq_ok hdraw
    have hcheck := check_of_isImage (isImage_ofRaster hpixels).1
    have hbytes : DrawnContent r budget rows (encode (.ofRaster raster)) := by
      refine ⟨raster, pixels, hdraw, hpixels, ?_⟩
      rw [encode, ofRaster, hpixels]
      rfl
    dsimp only
    rcases obstructed_or_writable t path with ⟨step, number, hstop⟩ | ⟨place, hplace⟩
    · rw [save_of_obstructed hcheck hstop]
      exact allOrNothing_stopped hstop rfl
    · obtain ⟨hok, hreplaced⟩ := save_of_writable hcheck hplace
      rw [hok]
      exact allOrNothing_written hbytes hreplaced

/-- How a step of a session ended. -/
def endingOf : Session.Reply → Except Abort Unit
  | .aborted a => .error a
  | _ => .ok ()

/-- What a renderer that is started for one render leaves in a file. -/
def OnceContent (processors : Processors) (settings : Settings) (budget rows : Int64)
    (bytes : List UInt8) : Prop :=
  ∃ r, Renderer.start processors settings = .ok r ∧ DrawnContent r budget rows bytes

theorem once_allOrNothing (s : Session) (settings : Settings) (path : String) (budget rows : Int64) :
    AllOrNothing s.tree path (OnceContent s.processors settings budget rows)
      (s.perform (.renderOnce settings path budget rows none)).session.tree
      (endingOf (s.perform (.renderOnce settings path budget rows none)).reply) := by
  rw [Session.perform]
  unfold Session.withStarted
  cases hstart : Renderer.start s.processors settings with
  | error c =>
    refine allOrNothing_refused ?_ ?_
    · rintro bytes ⟨r, hr, -⟩
      rw [hstart] at hr
      cases hr
    · rintro f ⟨⟩
  | ok r =>
    have hlaw := allOrNothing_map (fun _ => ()) (render_allOrNothing r s.tree path budget rows)
    have hcontent : OnceContent s.processors settings budget rows = DrawnContent r budget rows := by
      funext bytes
      simp [OnceContent, hstart]
    rw [hcontent]
    dsimp only [Session.renderWith]
    cases houtcome : (r.render s.tree path budget rows).2.outcome with
    | error a => rw [houtcome] at hlaw; exact hlaw
    | ok report => rw [houtcome] at hlaw; exact hlaw

/-- Writes are all or nothing, whatever the tree and the path: those of an image, of a renderer that is
open or closed, and of one that lives for a single render. -/
theorem writes_all_or_nothing (path : String) :
    (∀ (t : Tree) (g : Graymap), AllOrNothing t path (ImageContent g) (save t path g).1
      (Renderer.fallible (save t path g).2)) ∧
    (∀ (t : Tree) (r : Renderer) (budget rows : Int64),
      AllOrNothing t path (DrawnContent r budget rows) (r.render t path budget rows).1
        (r.render t path budget rows).2.outcome) ∧
    ∀ (s : Session) (settings : Settings) (budget rows : Int64),
      AllOrNothing s.tree path (OnceContent s.processors settings budget rows)
        (s.perform (.renderOnce settings path budget rows none)).session.tree
        (endingOf (s.perform (.renderOnce settings path budget rows none)).reply) :=
  ⟨fun t g => save_allOrNothing t path g, fun t r budget rows => render_allOrNothing r t path budget rows,
    fun s settings budget rows => once_allOrNothing s settings path budget rows⟩

/-- One pixel over an older, longer file, and the same pixel on a device without room; a closed renderer
leaves the older file alone. -/
theorem writes_all_or_nothing_older_file :
    let t := (Tree.scratch.addFile "a.pgm" (List.replicate 40 1)).addFile "b" [9]
    let closed : Renderer := ⟨{}, ⟨4, true, by decide, by decide⟩⟩
    (∃ place, Replaced t (save t "a.pgm" ⟨1, 1, #[7]⟩).1 "a.pgm" place (headerBytes 1 1 ++ [7])) ∧
      (∃ f, Renderer.fallible (save t "/dev/full" ⟨1, 1, #[7]⟩).2 = .error (.failure f) ∧
        f.writeFault? = some ⟨.writeHeader, "/dev/full", .system .noSpace⟩) ∧
      (closed.render t "a.pgm" 5 2).1 = t := by
  intro t closed
  have hcheck : check ⟨1, 1, #[7]⟩ = .ok () := by decide
  have hsaved : (save t "a.pgm" ⟨1, 1, #[7]⟩).2 = .ok () := by decide +kernel
  have hclosed : (closed.render t "a.pgm" 5 2).2.outcome = .error (.failure (.kind .closed)) := by
    decide +kernel
  have hfull : Obstructed t "/dev/full" .writeHeader .noSpace :=
    @Obstructed.full t _ ["dev", "full"] (by decide +kernel) (by decide +kernel)
  refine ⟨?_, ?_, ?_⟩
  · obtain ⟨bytes, place, ⟨-, rfl⟩, hreplaced⟩ :=
      ((writes_all_or_nothing "a.pgm").1 t ⟨1, 1, #[7]⟩).all () (by rw [hsaved]; rfl)
    exact ⟨place, hreplaced⟩
  · exact ((writes_all_or_nothing "/dev/full").1 t ⟨1, 1, #[7]⟩).stopped _ _ _ ⟨hcheck, rfl⟩ hfull
  · exact ((writes_all_or_nothing "a.pgm").2.1 t closed 5 2).nothing _ hclosed

end EscapeTime.Proofs
