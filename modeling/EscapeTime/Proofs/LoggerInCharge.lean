import EscapeTime.Proofs.LogRecords
import EscapeTime.Session

/-!
# The logger in charge

Which records of a step are kept is up to one logger: that of the renderer at work, if it was given one, or
else the shared one. Both are read off the history of the workshop, as the one that was set last.
-/

namespace EscapeTime.Proofs
open Session

/-- The records that reach the level of a logger. -/
def keptBy (logger : Logger) (records : List Record) : List Record :=
  records.filter fun record => logger.isEnabled record.level

lemma mem_keptBy {logger : Logger} {records : List Record} {record : Record} :
    record ∈ keptBy logger records ↔
      record ∈ records ∧ ∃ least, logger = .keeping least ∧ least.rank ≤ record.level.rank := by
  unfold keptBy
  rw [List.mem_filter]
  refine and_congr_right fun _ => ?_
  cases logger with
  | silent => simp [Logger.isEnabled]
  | keeping least => simp [Logger.isEnabled]

lemma map_kept (logger : Logger) (events : List Event) :
    (logger.kept events).map .ofEvent = keptBy logger (events.map .ofEvent) := by
  unfold Logger.kept keptBy
  rw [List.filter_map]
  rfl

/-- The renderer that takes a step, if there is one. -/
def atWork? (s : Session) : Step → Option Renderer
  | .renderOnce settings .. => (Renderer.start s.processors settings).toOption
  | _ => s.renderer

/-- The records of a step, by its reply. -/
def stepRecords (r : Renderer) : Step → Reply → List Record
  | .compute _ budget _, .grid grid => [gridRecord r budget grid.rows grid.cols]
  | .shade .., .raster raster => [rasterRecord raster.width raster.height]
  | .render _ budget _ _, .report report => reportRecords r budget report
  | .render _ budget rows _, .aborted a => abortRecords r budget rows a
  | .renderOnce _ _ budget _ _, .report report => reportRecords r budget report
  | .renderOnce _ _ budget rows _, .aborted a => abortRecords r budget rows a
  | _, _ => []

/-- A step was logged as its reply says, by the logger of the renderer at work. -/
structure LoggedBy (worker? : Option Renderer) (loggerOf : Renderer → Logger) (step : Step)
    (result : Result) : Prop where
  idle : worker? = none → result.log = []
  working : ∀ r, worker? = some r →
    result.log.map .ofEvent = keptBy (loggerOf r) (stepRecords r step result.reply)

lemma withRenderer_logged {α : Type} {s : Session} {loggerOf : Renderer → Logger} {step : Step}
    (arguments : Except Failure α) {f : Renderer → Result}
    (h : ∀ r, (f r).log.map .ofEvent = keptBy (loggerOf r) (stepRecords r step (f r).reply)) :
    LoggedBy s.renderer loggerOf step (s.withRenderer arguments f) := by
  unfold withRenderer
  constructor
  · intro hnone
    rw [hnone]
    cases arguments <;> rfl
  · intro r hsome
    rw [hsome]
    exact h r

lemma compute_logged (s : Session) (rows budget : Int64) (name : String) :
    LoggedBy s.renderer s.loggerOf (.compute rows budget name)
      (s.perform (.compute rows budget name)) := by
  rw [Session.perform]
  refine withRenderer_logged _ fun r => ?_
  dsimp only
  cases hcompute : (r.compute rows budget).outcome with
  | error a =>
    rw [compute_events_of_error hcompute]
    rfl
  | ok grid =>
    dsimp only
    rw [map_kept, compute_events_of_ok hcompute]
    rfl

lemma shade_logged (s : Session) (grid : String) (budget : Int64) (name : String) :
    LoggedBy s.renderer s.loggerOf (.shade grid budget name)
      (s.perform (.shade grid budget name)) := by
  rw [Session.perform]
  refine withRenderer_logged _ fun r => ?_
  dsimp only
  cases hshade : (r.shade (s.grids.lookup grid) budget).outcome with
  | error a =>
    rw [shade_events_of_error hshade]
    rfl
  | ok raster =>
    dsimp only
    rw [map_kept, shade_events_of_ok hshade]
    rfl

/-- What a render in a session logs, whether its renderer is kept or was started for it only. -/
lemma renderWith_log (s : Session) (r : Renderer) (path : String) (budget rows : Int64)
    (late? : Option Graymap.LateFault) :
    (s.renderWith r path budget rows late?).log.map .ofEvent = keptBy (s.loggerOf r)
      (stepRecords r (.render path budget rows late?)
        (s.renderWith r path budget rows late?).reply) := by
  have hlog : (s.renderWith r path budget rows late?).log =
      (s.loggerOf r).kept (r.render s.tree path budget rows late?).2.events := rfl
  rw [hlog, map_kept]
  unfold renderWith
  dsimp only
  cases hrender : (r.render s.tree path budget rows late?).2.outcome with
  | error a =>
    rw [render_events_of_error hrender]
    rfl
  | ok report =>
    rw [render_events_of_ok hrender]
    rfl

lemma renderOnce_logged (s : Session) (settings : Settings) (path : String) (budget rows : Int64)
    (late? : Option Graymap.LateFault) :
    LoggedBy (Renderer.start s.processors settings).toOption s.loggerOf
      (.renderOnce settings path budget rows late?)
      (s.perform (.renderOnce settings path budget rows late?)) := by
  rw [Session.perform]
  unfold withStarted
  cases Renderer.start s.processors settings with
  | error c =>
    refine ⟨fun _ => rfl, ?_⟩
    rintro r ⟨⟩
  | ok r =>
    constructor
    · intro hnone
      cases hnone
    · rintro _ ⟨⟩
      refine (renderWith_log s r path budget rows late?).trans ?_
      unfold renderWith
      dsimp only
      cases (r.render s.tree path budget rows late?).2.outcome <;> rfl

/-- A step that reports nothing logs nothing. -/
lemma logged_of_quiet {worker? : Option Renderer} {loggerOf : Renderer → Logger} {step : Step}
    {result : Result} (hlog : result.log = [])
    (hrecords : ∀ r, stepRecords r step result.reply = []) :
    LoggedBy worker? loggerOf step result := by
  refine ⟨fun _ => hlog, fun r _ => ?_⟩
  rw [hlog, hrecords]
  rfl

theorem perform_logged (s : Session) (step : Step) :
    LoggedBy (atWork? s step) s.loggerOf step (s.perform step) := by
  cases step with
  | compute rows budget name => exact compute_logged s rows budget name
  | shade grid budget name => exact shade_logged s grid budget name
  | render path budget rows late? =>
    rw [Session.perform]
    exact withRenderer_logged _ fun r => renderWith_log s r path budget rows late?
  | renderOnce settings path budget rows late? =>
    exact renderOnce_logged s settings path budget rows late?
  | start settings =>
    refine logged_of_quiet ?_ fun _ => rfl
    rw [Session.perform]
    cases Renderer.start s.processors settings <;> rfl
  | close =>
    rw [Session.perform]
    exact withRenderer_logged _ fun _ => rfl
  | setLogger logger => exact logged_of_quiet rfl fun _ => rfl
  | newGrid rows cols counts name =>
    refine logged_of_quiet ?_ fun _ => rfl
    rw [Session.perform]
    cases Grid.new rows cols 0 <;> rfl
  | cell grid row col =>
    refine logged_of_quiet ?_ fun _ => rfl
    rw [Session.perform]
    cases s.grids.lookup grid with
    | none => rfl
    | some g => dsimp only; cases g.countAt row col <;> rfl
  | release image =>
    refine logged_of_quiet ?_ fun _ => rfl
    rw [Session.perform]
    cases Raster.release (s.images.lookup image) <;> rfl
  | write image path late? =>
    refine logged_of_quiet ?_ fun _ => rfl
    rw [Session.perform]
    cases s.images.lookup image <;> rfl
  | decode path maxPixels name =>
    refine logged_of_quiet ?_ fun _ => rfl
    rw [Session.perform]
    cases s.tree.read? path with
    | none => rfl
    | some bytes => dsimp only; cases Graymap.decode bytes maxPixels <;> rfl

/-- A value that each entry of a list sets or leaves alone, as long as something holds that no entry
breaks, is at the end the one that was set last. -/
lemma foldl_eq_last_of {σ ε β : Type} {P : σ → Prop} {step : σ → ε → σ} (get : σ → β)
    {set? : ε → Option β} (hstep : ∀ s e, P s → P (step s e))
    (h : ∀ s e, P s → get (step s e) = (set? e).getD (get s)) {s : σ} (hs : P s) (entries : List ε) :
    get (entries.foldl step s) = (entries.filterMap set?).getLastD (get s) := by
  induction entries generalizing s with
  | nil => rfl
  | cons e entries ih =>
    rw [List.foldl_cons, ih (hstep s e hs), h s e hs]
    cases hset : set? e with
    | none => rw [List.filterMap_cons_none hset]; rfl
    | some b => rw [List.filterMap_cons_some hset, List.getLastD_cons]; rfl

lemma foldl_eq_last {σ ε β : Type} {step : σ → ε → σ} (get : σ → β) {set? : ε → Option β}
    (h : ∀ s e, get (step s e) = (set? e).getD (get s)) (s : σ) (entries : List ε) :
    get (entries.foldl step s) = (entries.filterMap set?).getLastD (get s) :=
  foldl_eq_last_of get (P := fun _ => True) (fun _ _ _ => trivial) (fun s e _ => h s e) trivial entries

/-- The logger, or none, that a choice sets. -/
def loggerChosen? : Choice → Option (Option Logger)
  | .logger logger => some logger
  | _ => none

lemma ofChoices_logger (choices : List Choice) :
    (Settings.ofChoices choices).logger = (choices.filterMap loggerChosen?).getLastD none := by
  refine foldl_eq_last Settings.logger (fun s choice => ?_) {} choices
  cases choice <;> rfl

/-- The shared logger that a step sets. -/
def sharedSet? (entry : Nat × Step) : Option Logger :=
  match entry.2 with
  | .setLogger logger => some logger
  | _ => none

/-- The shared logger after a history: the one that was set last, and at first a silent one. -/
def sharedLogger (history : List (Nat × Step)) : Logger :=
  (history.filterMap sharedSet?).getLastD .silent

/-- The logger, or none, of the renderer that a step starts at the bench. -/
def ownSet? (processors : Processors) (bench : Nat) (entry : Nat × Step) : Option (Option Logger) :=
  match entry.2 with
  | .start settings =>
    if entry.1 = bench ∧ (Renderer.start processors settings).isOk then some settings.logger else none
  | _ => none

/-- The logger of the renderer at a bench after a history: that of the one started there last, if it was
given one. -/
def ownLogger (processors : Processors) (history : List (Nat × Step)) (bench : Nat) : Option Logger :=
  (history.filterMap (ownSet? processors bench)).getLastD none

/-- The logger in charge of a step: that of the renderer at work, or else the shared one. -/
def inCharge (processors : Processors) (history : List (Nat × Step)) (bench : Nat) : Step → Logger
  | .renderOnce settings .. => settings.logger.getD (sharedLogger history)
  | _ => (ownLogger processors history bench).getD (sharedLogger history)

/-- Steps that exchange the renderer or the shared logger. -/
def SetsUp : Step → Prop
  | .start _ | .close | .setLogger _ => True
  | _ => False

/-- The step has left the renderer, the shared logger and the processors alone. -/
def Keeps (s : Session) (result : Result) : Prop :=
  result.session.renderer = s.renderer ∧ result.session.logger = s.logger ∧
    result.session.processors = s.processors

lemma withRenderer_keeps {α : Type} {s : Session} (arguments : Except Failure α)
    {f : Renderer → Result} (h : ∀ r, Keeps s (f r)) : Keeps s (s.withRenderer arguments f) := by
  unfold withRenderer
  split
  · exact h _
  · exact ⟨rfl, rfl, rfl⟩
  · exact ⟨rfl, rfl, rfl⟩

lemma perform_keeps (s : Session) {step : Step} (h : ¬SetsUp step) : Keeps s (s.perform step) := by
  cases step with
  | start | close | setLogger => exact absurd trivial h
  | compute rows budget name =>
    rw [Session.perform]
    refine withRenderer_keeps _ fun r => ?_
    dsimp only
    split <;> exact ⟨rfl, rfl, rfl⟩
  | newGrid rows cols counts name =>
    rw [Session.perform]
    split <;> exact ⟨rfl, rfl, rfl⟩
  | cell grid row col =>
    rw [Session.perform]
    split
    · exact ⟨rfl, rfl, rfl⟩
    · split <;> exact ⟨rfl, rfl, rfl⟩
  | shade grid budget name =>
    rw [Session.perform]
    refine withRenderer_keeps _ fun r => ?_
    dsimp only
    split <;> exact ⟨rfl, rfl, rfl⟩
  | release image =>
    rw [Session.perform]
    split <;> exact ⟨rfl, rfl, rfl⟩
  | write image path late? =>
    rw [Session.perform]
    split <;> exact ⟨rfl, rfl, rfl⟩
  | render path budget rows late? =>
    rw [Session.perform]
    exact withRenderer_keeps _ fun r => ⟨rfl, rfl, rfl⟩
  | renderOnce settings path budget rows late? =>
    rw [Session.perform]
    unfold withStarted
    split <;> exact ⟨rfl, rfl, rfl⟩
  | decode path maxPixels name =>
    rw [Session.perform]
    split
    · exact ⟨rfl, rfl, rfl⟩
    · split <;> exact ⟨rfl, rfl, rfl⟩

lemma perform_logger (s : Session) (bench : Nat) (step : Step) :
    (s.perform step).session.logger = (sharedSet? (bench, step)).getD s.logger := by
  cases step with
  | start settings =>
    rw [Session.perform]
    unfold withStarted
    split <;> rfl
  | close =>
    rw [Session.perform]
    unfold withRenderer
    split <;> rfl
  | setLogger logger => rfl
  | _ => exact (perform_keeps s id).2.1

lemma perform_processors (s : Session) (step : Step) :
    (s.perform step).session.processors = s.processors := by
  cases step with
  | start settings =>
    rw [Session.perform]
    unfold withStarted
    split <;> rfl
  | close =>
    rw [Session.perform]
    unfold withRenderer
    split <;> rfl
  | setLogger logger => rfl
  | _ => exact (perform_keeps s id).2.2

/-- The logger that the renderer of a session was given. -/
def givenLogger (s : Session) : Option Logger := s.renderer.bind fun r => r.settings.logger

lemma perform_givenLogger (s : Session) (bench : Nat) (step : Step) :
    givenLogger (s.perform step).session =
      (ownSet? s.processors bench (bench, step)).getD (givenLogger s) := by
  cases step with
  | start settings =>
    unfold ownSet?
    rw [Session.perform]
    dsimp only
    cases hstart : Renderer.start s.processors settings with
    | error c =>
      -- The old renderer is closed and stays, with the logger that it has.
      have hclosed : givenLogger { s with renderer := s.renderer.map Renderer.close } =
          givenLogger s := by
        unfold givenLogger
        cases s.renderer <;> rfl
      rw [if_neg (by simp [Except.isOk, Except.toBool])]
      exact hclosed
    | ok r =>
      rw [if_pos (by simp [Except.isOk, Except.toBool])]
      exact congrArg Settings.logger (start_settings hstart)
  | close =>
    rw [Session.perform]
    unfold withRenderer givenLogger
    cases hrenderer : s.renderer <;> simp [hrenderer, ownSet?, Renderer.close]
  | setLogger logger => rfl
  | _ => exact congrArg (Option.bind · _) (perform_keeps s id).1

lemma after_sharedLogger (processors : Processors) (tree : Tree) (history : List (Nat × Step)) :
    (Workshop.after { session := { processors, tree } } history).session.logger =
      sharedLogger history := by
  refine foldl_eq_last (fun w : Workshop => w.session.logger) (fun w entry => ?_) _ history
  exact perform_logger (w.seenFrom entry.1) entry.1 entry.2

lemma after_ownLogger (processors : Processors) (tree : Tree) (history : List (Nat × Step))
    (bench : Nat) :
    givenLogger ((Workshop.after { session := { processors, tree } } history).seenFrom bench) =
      ownLogger processors history bench := by
  refine foldl_eq_last_of (fun w : Workshop => givenLogger (w.seenFrom bench))
    (P := fun w : Workshop => w.session.processors = processors) (fun w entry hw => ?_)
    (fun w entry hw => ?_) rfl history
  · exact (perform_processors (w.seenFrom entry.1) entry.2).trans hw
  subst hw
  by_cases hbench : bench = entry.1
  · subst hbench
    have hrenderer : (w.next entry.1 entry.2).renderers entry.1 =
        (w.perform entry.1 entry.2).session.renderer := if_pos rfl
    exact (congrArg (Option.bind · _) hrenderer).trans
      (perform_givenLogger (w.seenFrom entry.1) entry.1 entry.2)
  · -- A step at another bench leaves the renderer of this one alone.
    have hrenderer : (w.next entry.1 entry.2).renderers bench = w.renderers bench := if_neg hbench
    have hother : ownSet? w.session.processors bench entry = none := by
      unfold ownSet?
      split
      · exact if_neg fun h => hbench h.1.symm
      · rfl
    rw [hother]
    exact congrArg (Option.bind · _) hrenderer

/-- The logger of whoever is at work after a history is the one that the history puts in charge. -/
lemma loggerOf_atWork {processors : Processors} {tree : Tree} {history : List (Nat × Step)}
    {bench : Nat} {step : Step} {r : Renderer} {s : Session}
    (hs : s = (Workshop.after { session := { processors, tree } } history).seenFrom bench)
    (h : atWork? s step = some r) : s.loggerOf r = inCharge processors history bench step := by
  have hshared : s.logger = sharedLogger history := by
    rw [hs]
    exact after_sharedLogger processors tree history
  have hown : givenLogger s = ownLogger processors history bench := by
    rw [hs]
    exact after_ownLogger processors tree history bench
  unfold loggerOf Renderer.loggerOr
  rw [hshared]
  cases step with
  | renderOnce settings path budget rows late? =>
    have hstart : (Renderer.start s.processors settings).toOption = some r := h
    cases hrenderer : Renderer.start s.processors settings with
    | error c => rw [hrenderer] at hstart; cases hstart
    | ok started =>
      rw [hrenderer] at hstart
      cases hstart
      rw [start_settings hrenderer]
      rfl
  | _ =>
    have hrenderer : s.renderer = some r := h
    unfold givenLogger at hown
    rw [hrenderer] at hown
    unfold inCharge
    rw [← hown]
    rfl

/-- What is logged is determined by the outcome and by one logger. What the stages of a renderer report is
decided by how they end, and is never that a release failed; a logger keeps what reaches its level; a
renderer's own logger is the one chosen last; and after any history of steps, at any number of benches, a
step is logged as its reply says, by the logger of the renderer at work or, if it was given none, by the
shared logger that was set last. -/
theorem log_determined :
    (∀ r, ReportsOutcome r) ∧
    (∀ logger records record, record ∈ keptBy logger records ↔
      record ∈ records ∧ ∃ least, logger = .keeping least ∧ least.rank ≤ record.level.rank) ∧
    (∀ choices, (Settings.ofChoices choices).logger =
      (choices.filterMap loggerChosen?).getLastD none) ∧
    ∀ (processors : Processors) (tree : Tree) (history : List (Nat × Step)) (bench : Nat) (step : Step),
      let w := Workshop.after { session := { processors, tree } } history
      let worker? := atWork? (w.seenFrom bench) step
      let logger := inCharge processors history bench step
      (∀ r, worker? = some r → (w.seenFrom bench).loggerOf r = logger) ∧
        LoggedBy worker? (fun _ => logger) step (w.perform bench step) := by
  refine ⟨reportsOutcome, fun _ _ _ => mem_keptBy, ofChoices_logger,
    fun processors tree history bench step => ?_⟩
  intro w worker? logger
  have hlogged := perform_logged (w.seenFrom bench) step
  refine ⟨fun r => loggerOf_atWork rfl, hlogged.idle, fun r hr => ?_⟩
  have hlogger : (w.seenFrom bench).loggerOf r = logger := loggerOf_atWork rfl hr
  rw [← hlogger]
  exact hlogged.working r hr

lemma atWork?_render (w : Workshop) (bench : Nat) (path : String) (budget rows : Int64)
    (late? : Option Graymap.LateFault) :
    atWork? (w.seenFrom bench) (.render path budget rows late?) = w.renderers bench :=
  rfl

lemma perform_render_reply {w : Workshop} {bench : Nat} {r : Renderer} (h : w.renderers bench = some r)
    (path : String) (budget rows : Int64) (late? : Option Graymap.LateFault) :
    (w.perform bench (.render path budget rows late?)).reply =
      match (r.render w.session.tree path budget rows late?).2.outcome with
      | .error a => .aborted a
      | .ok report => .report report := by
  have hrenderer : (w.seenFrom bench).renderer = some r := h
  unfold Workshop.perform
  rw [Session.perform]
  unfold withRenderer
  rw [hrenderer]
  rfl

/-- Two benches and a shared logger for what matters: the renderer whose logger was taken back logs its
render there, and the one that has its own logs there what came before a failed write. -/
theorem log_determined_two_benches :
    let history : List (Nat × Step) := [(0, .setLogger (.keeping .info)),
      (0, .start (.ofChoices [.logger (some (.keeping .debug)), .logger none])),
      (1, .start (.ofChoices [.logger (some (.keeping .debug))]))]
    let processors : Processors := ⟨4, by decide⟩
    let w := Workshop.after { session := { processors, tree := .scratch } } history
    (w.perform 0 (.render "a.pgm" 5 2 none)).log.map Record.ofEvent =
        [⟨.info, "render finished", [("path", .text "a.pgm"), ("width", .int 3), ("height", .int 2)]⟩] ∧
      (w.perform 1 (.render "no/a.pgm" 5 2 none)).log.map Record.ofEvent =
        [⟨.debug, "escape grid computed",
            [("rows", .int 2), ("cols", .int 3), ("max_iter", .int 5), ("workers", .int 4)]⟩,
          ⟨.debug, "raster shaded", [("width", .int 3), ("height", .int 2)]⟩] := by
  intro history processors w
  let pool : Pool := ⟨4, false, by decide, by decide⟩
  let plain : Renderer := ⟨.ofChoices [.logger (some (.keeping .debug)), .logger none], pool⟩
  let own : Renderer := ⟨.ofChoices [.logger (some (.keeping .debug))], pool⟩
  let f : Failure := .within "mandel: write image" (.write .openFile "no/a.pgm" (.system .noEntry))
  have hplain : w.renderers 0 = some plain := by decide +kernel
  have hown : w.renderers 1 = some own := by decide +kernel
  have hreport : (plain.render w.session.tree "a.pgm" 5 2).2.outcome = .ok ⟨"a.pgm", 3, 2, 17⟩ := by
    decide +kernel
  have hfailure : (own.render w.session.tree "no/a.pgm" 5 2).2.outcome = .error (.failure f) := by
    decide +kernel
  obtain ⟨-, -, -, hlaw⟩ := log_determined
  have hfirst := (hlaw processors .scratch history 0 (.render "a.pgm" 5 2 none)).2.working plain
    ((atWork?_render w 0 _ _ _ _).trans hplain)
  have hsecond := (hlaw processors .scratch history 1 (.render "no/a.pgm" 5 2 none)).2.working own
    ((atWork?_render w 1 _ _ _ _).trans hown)
  rw [perform_render_reply hplain, hreport] at hfirst
  rw [perform_render_reply hown, hfailure] at hsecond
  constructor
  · rw [hfirst]
    decide +kernel
  · rw [hsecond]
    decide +kernel

end EscapeTime.Proofs
