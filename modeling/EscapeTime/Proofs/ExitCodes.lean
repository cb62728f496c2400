import EscapeTime.Command.Run
import EscapeTime.Proofs.AllOrNothing
import EscapeTime.Proofs.ChunkSizes

/-!
# Exit codes

The command ends with two if its flags or the number of its arguments are wrong, with zero if the
arguments ask for a render that succeeds, and with one in all other cases. Only a success prints to the
first output and changes the tree; whatever else happens is said on the second, with a stage that is
never the last resort, because a renderer started for one job is open and its failures have a kind.
-/

namespace EscapeTime.Proofs
open Graymap Command EscapeTime.Partition

/-- The flags cannot be read, or they leave other than three arguments. -/
def BadUsage (arguments : List String) : Prop :=
  (∃ fault, readFlags {} arguments = .error fault) ∨
    ∃ options positional, readFlags {} arguments = .ok (options, positional) ∧ positional.length ≠ 3

/-- The arguments ask for a job: after the flags come a file name, which is not empty, and two numerals
of numbers that are not negative. -/
structure Asks (arguments : List String) (name : String) (job : Job) : Prop where
  read : ∃ iterations rows, readFlags {} arguments = .ok (job.options, [name, iterations, rows]) ∧
    Numeral.read? iterations.toList = some job.request.budget ∧
    Numeral.read? rows.toList = some job.request.rows
  named : name ≠ ""
  budget_nonneg : 0 ≤ job.request.budget.toInt
  rows_nonneg : 0 ≤ job.request.rows.toInt
  path_eq : job.request.path = fileName name

lemma not_badUsage {arguments : List String} {options : Options} {name iterations rows : String}
    (h : readFlags {} arguments = .ok (options, [name, iterations, rows])) : ¬BadUsage arguments := by
  rintro (⟨fault, hfault⟩ | ⟨options', positional, hread, hlength⟩)
  · rw [h] at hfault
    cases hfault
  · rw [h] at hread
    cases hread
    exact hlength rfl

lemma naturalArgument_eq_ok_iff {argument value : String} {n : Int64} :
    naturalArgument argument value = .ok n ↔
      Numeral.read? value.toList = some n ∧ 0 ≤ n.toInt := by
  unfold naturalArgument
  cases hread : Numeral.read? value.toList with
  | none => simp
  | some m =>
    have hzero : (0 : Int64).toInt = 0 := by decide
    by_cases hneg : m < 0
    · have hlt : m.toInt < 0 := Int64.lt_iff_toInt_lt.mp hneg
      simp only [hneg, if_true, reduceCtorEq, Option.some.injEq, false_iff, not_and]
      rintro rfl
      omega
    · have hle : 0 ≤ m.toInt := Int64.le_iff_toInt_le.mp (Int64.not_lt.mp hneg)
      simp only [hneg, if_false, Except.ok.injEq, Option.some.injEq]
      constructor
      · rintro rfl
        exact ⟨rfl, hle⟩
      · exact And.left

lemma naturalArgument_eq_error {argument value : String} {f : Failure}
    (h : naturalArgument argument value = .error f) : Blames f .invalidInput := by
  unfold naturalArgument at h
  split at h
  · cases h
    exact blames_cause _
  · split at h
    · cases h
      exact blames_cause _
    · cases h

lemma readRequest_three (name iterations rows : String) (hname : name ≠ "") :
    readRequest [name, iterations, rows] =
      (naturalArgument "max-iterations" iterations >>= fun budget =>
        (naturalArgument "rows" rows).map fun height => ⟨fileName name, budget, height⟩) := by
  have hnonempty : name.isEmpty = false := by simpa using hname
  unfold readRequest
  dsimp only
  rw [hnonempty]
  rfl

lemma readRequest_eq_error {name iterations rows : String} {f : Failure}
    (h : readRequest [name, iterations, rows] = .error f) : Blames f .invalidInput := by
  by_cases hname : name = ""
  · subst hname
    cases h
    exact blames_cause _
  · rw [readRequest_three name iterations rows hname] at h
    cases hbudget : naturalArgument "max-iterations" iterations with
    | error g =>
      rw [hbudget] at h
      cases h
      exact naturalArgument_eq_error hbudget
    | ok budget =>
      rw [hbudget] at h
      exact naturalArgument_eq_error (map_eq_error h)

lemma readRequest_of_length {positional : List String} (h : positional.length ≠ 3) :
    readRequest positional = .error (.cause (.argumentCount positional.length)) := by
  unfold readRequest
  split
  · exact absurd rfl h
  · rfl

/-- Three arguments make a request exactly as asked. -/
theorem readRequest_eq_ok_iff {name iterations rows : String} {request : Request} :
    readRequest [name, iterations, rows] = .ok request ↔
      name ≠ "" ∧ (Numeral.read? iterations.toList = some request.budget ∧
        0 ≤ request.budget.toInt) ∧ (Numeral.read? rows.toList = some request.rows ∧
        0 ≤ request.rows.toInt) ∧ request.path = fileName name := by
  by_cases hname : name = ""
  · subst hname
    simp [readRequest]
  · rw [readRequest_three name iterations rows hname, ← naturalArgument_eq_ok_iff,
      ← naturalArgument_eq_ok_iff]
    constructor
    · intro h
      obtain ⟨budget, hbudget, h⟩ := bind_eq_ok h
      obtain ⟨height, hheight, rfl⟩ := map_eq_ok h
      exact ⟨hname, hbudget, hheight, rfl⟩
    · rintro ⟨-, hbudget, hheight, hpath⟩
      rw [hbudget, hheight, ← hpath]
      rfl

lemma readJob_of_asks {arguments : List String} {name : String} {job : Job}
    (h : Asks arguments name job) : readJob arguments = .ok job := by
  obtain ⟨iterations, rows, hflags, hiterations, hrows⟩ := h.read
  have hrequest : readRequest [name, iterations, rows] = .ok job.request :=
    readRequest_eq_ok_iff.mpr
      ⟨h.named, ⟨hiterations, h.budget_nonneg⟩, ⟨hrows, h.rows_nonneg⟩, h.path_eq⟩
  unfold readJob
  rw [hflags]
  dsimp only
  rw [hrequest]

/-- How reading the arguments ends: with a job that they ask for, or with one of two codes and
something to say. -/
theorem readJob_ends (arguments : List String) :
    (∃ name job, Asks arguments name job ∧ readJob arguments = .ok job) ∨
      (BadUsage arguments ∧ ∃ text, readJob arguments = .error ⟨2, "", text ++ usage⟩) ∨
      ¬BadUsage arguments ∧ ∃ f, readJob arguments = .error ⟨1, "", complaint f⟩ ∧
        Blames f .invalidInput := by
  unfold readJob
  cases hflags : readFlags {} arguments with
  | error fault => exact .inr (.inl ⟨.inl ⟨fault, hflags⟩, _, rfl⟩)
  | ok read =>
    obtain ⟨options, positional⟩ := read
    dsimp only
    by_cases hlength : positional.length = 3
    · obtain ⟨name, iterations, rows, rfl⟩ := List.length_eq_three.mp hlength
      cases hrequest : readRequest [name, iterations, rows] with
      | ok request =>
        obtain ⟨hname, ⟨hiterations, hbudget⟩, ⟨hrows, hheight⟩, hpath⟩ :=
          readRequest_eq_ok_iff.mp hrequest
        exact .inl ⟨name, ⟨options, request⟩,
          ⟨⟨iterations, rows, hflags, hiterations, hrows⟩, hname, hbudget, hheight, hpath⟩, rfl⟩
      | error f =>
        have hblames := readRequest_eq_error hrequest
        have husage : f.hasKind .usage = false := hblames.hasKind_eq .usage
        refine .inr (.inr ⟨not_badUsage hflags, f, ?_, hblames⟩)
        dsimp only
        rw [husage]
        rfl
    · rw [readRequest_of_length hlength]
      exact .inr (.inl ⟨.inr ⟨options, positional, hflags, hlength⟩, _, rfl⟩)

/-- The stages that a failure is put down to. A failed write is put down to the step that is stopped at
the path of the job. -/
inductive NamedStage (arguments : List String) (t : Tree) : String → Prop where
  | validation : NamedStage arguments t "argument validation"
  | allocation : NamedStage arguments t "allocation"
  | write {name : String} {job : Job} {step : WriteStep} {number : Errno} : Asks arguments name job →
      Obstructed t (fileName name) step number →
      NamedStage arguments t ("write (" ++ step.label ++ ")")

lemma namedStage_ne_render {arguments : List String} {t : Tree} {name : String}
    (h : NamedStage arguments t name) : name ≠ "render" := by
  cases h with
  | validation => decide
  | allocation => decide
  | write _ _ =>
    intro heq
    have hchars := congrArg String.toList heq
    simp at hchars

lemma namedStage_of_blames {arguments : List String} {t : Tree} {f : Failure} {base : Kind}
    (h : Blames f base) (hbase : base ∈ .invalidInput :: refusalKinds) :
    NamedStage arguments t (stage f) := by
  have htable : ∀ k ∈ Kind.invalidInput :: refusalKinds,
      (k.countsAs .usage || k.countsAs .invalidInput) = true ∨
        (k.countsAs .usage || k.countsAs .invalidInput) = false ∧ k.countsAs .outOfMemory = true := by
    decide
  unfold stage
  rw [h.hasKind_eq, h.hasKind_eq, h.hasKind_eq]
  rcases htable base hbase with hinput | ⟨hinput, hmemory⟩
  · rw [hinput]
    exact .validation
  · rw [hinput, hmemory]
    exact .allocation

/-- A job that an open renderer cannot render fails in a stage that has a name. -/
lemma namedStage_of_render {arguments : List String} {name : String} {job : Job} {r : Renderer} {t : Tree}
    {f : Failure} (hasks : Asks arguments name job) (hopen : r.pool.closed = false)
    (h : (r.render t job.request.path job.request.budget job.request.rows).2.outcome =
      .error (.failure f)) : NamedStage arguments t (stage f) := by
  rcases render_failure h with ⟨base, hbase, hblames⟩ | ⟨-, hclosed⟩ | ⟨step, number, rfl⟩
  · exact namedStage_of_blames hblames (List.mem_cons_of_mem _ hbase)
  · rw [hopen] at hclosed
    cases hclosed
  · obtain ⟨step', number', hstop, hfault⟩ := (render_allOrNothing r t _ _ _).reported _ _ h rfl
    cases hfault
    exact .write hasks (hasks.path_eq ▸ hstop)

/-- A chunk that is worked out makes at most twice as many ranges as it was worked out for. -/
lemma rangeCount_le_twice {n m c : Nat} (hm : 0 < m) (hc : c = max (n / m) 1) :
    rangeCount n c ≤ 2 * m := by
  have hlt : n < m * (n / m + 1) := Nat.lt_mul_div_succ n hm
  have hle : m * (n / m + 1) ≤ m * (2 * c) := Nat.mul_le_mul_left m (by omega)
  have hmul : m * (2 * c) = 2 * m * c := by rw [← Nat.mul_assoc, Nat.mul_comm m 2]
  by_contra hmany
  have := (lt_rangeCount_iff (by omega)).mp (Nat.not_le.mp hmany)
  omega

/-- The chunk is left open, and eight ranges to each worker can be held and counted. -/
structure Roomy (r : Renderer) : Prop where
  chunk_open : r.settings.chunk.toInt ≤ 0
  room : 8 * r.pool.workers.toInt < Pool.counterLimit

lemma split_of_roomy {r : Renderer} (h : Roomy r) {n : Int64} (hn : 0 < n.toInt)
    (hsmall : n.toInt ≤ 2 ^ 62) :
    ∃ ranges, split n r.settings.chunk r.pool.workers = .ok ranges ∧
      ranges.length < Pool.counterLimit := by
  have hpos := r.pool.workers_pos
  have hroom := h.room
  obtain ⟨c, hchunk, ⟨hasked, -⟩ | ⟨-, hle⟩⟩ :=
    chunkFor_eq_ok r.settings.chunk hn hpos (four_workers_le r.pool)
  · exact absurd hasked (Int.not_lt.mpr h.chunk_open)
  · have hopen := open_chunk hn ((chunkFor_eq_ok_iff hn).mp hchunk) h.chunk_open (by omega)
      (four_workers_le r.pool)
    have htwice := rangeCount_le_twice (by omega) hopen
    have hcounted : rangeCount n.toInt.toNat c.toInt.toNat < Pool.counterLimit := by omega
    refine ⟨_, split_of_capacity hn hchunk (by omega) ?_, ?_⟩
    · rw [toInt_capacity (chunkFor_pos hchunk) hn (by omega)]
      unfold Pool.counterLimit at hcounted
      unfold maxRanges
      omega
    · rwa [List.length_map, List.length_range]

lemma filled_not_crashes {α : Type} {r : Renderer} (h : Roomy r) (grid : Grid)
    (fill : List Range → α) : ¬Crashes ((r.spread grid.size).map fill) := by
  have hsize := grid_size_pos grid
  have hfits : grid.size ≤ Memory.limit := by
    have := grid.fits
    rw [Grid.size, grid.size_counts]
    omega
  unfold Memory.limit at hfits
  have htoInt : (Int64.ofNat grid.size).toInt = grid.size := Int64.toInt_ofNat_of_lt (by omega)
  obtain ⟨ranges, hsplit, hcounted⟩ :=
    split_of_roomy h (n := Int64.ofNat grid.size) (by omega) (by omega)
  rintro ⟨c, hc⟩
  rw [renderer_spread_eq, hsplit] at hc
  dsimp only at hc
  rw [if_neg (Nat.not_le.mpr hcounted)] at hc
  cases hclosed : r.pool.closed <;> simp [hclosed, Except.map] at hc

lemma draw_not_crashes {r : Renderer} (h : Roomy r) (budget rows : Int64) :
    ¬Crashes (r.draw budget rows).outcome := by
  unfold Renderer.draw
  dsimp only
  cases hcompute : (r.compute rows budget).outcome with
  | error a =>
    rintro ⟨c, hc⟩
    rw [compute_outcome] at hcompute
    rcases countGrid_ends r rows budget with ⟨lattice, blank, hprepared⟩ | ⟨f, hf, -⟩
    · rw [countGrid_of_prepared hprepared] at hcompute
      cases hc
      exact filled_not_crashes h blank _ ⟨c, hcompute⟩
    · rw [hf] at hcompute
      cases hcompute
      cases hc
  | ok grid =>
    dsimp only
    rw [shade_outcome]
    rcases shadeRaster_ends r (some grid) budget with ⟨shaded, black, haccepted⟩ | ⟨f, hf, -⟩
    · rw [shadeRaster_of_accepted haccepted]
      exact filled_not_crashes h shaded _
    · rintro ⟨c, hc⟩
      rw [hf] at hc
      cases hc

lemma render_not_crashes {r : Renderer} (h : Roomy r) (t : Tree) (path : String)
    (budget rows : Int64) : ¬Crashes (r.render t path budget rows).2.outcome := by
  unfold Renderer.render
  dsimp only
  cases hdraw : (r.draw budget rows).outcome with
  | error a =>
    rintro ⟨c, hc⟩
    cases hc
    exact draw_not_crashes h budget rows ⟨c, hdraw⟩
  | ok raster =>
    dsimp only
    rintro ⟨c, hc⟩
    cases hsave : (save t path (.ofRaster raster)).2 <;> rw [hsave] at hc <;> cases hc

/-- All queues of a pool are in memory at once. Each worker has one, with places of eight bytes, four of
them for every worker and eight at least. -/
def QueuesFit (processors : Processors) (workers : Int64) : Prop :=
  let n := (Pool.workersFor processors workers).toInt.toNat
  n * (max (4 * n) 8 * 8) ≤ Memory.limit

/-- Workers that can be counted can be started. -/
lemma start_of_counted (processors : Processors) (workers : Int64)
    (h : (Pool.workersFor processors workers).toInt < Pool.counterLimit) :
    ∃ p, Pool.start processors workers = .ok p ∧ p.workers = Pool.workersFor processors workers := by
  have hpos := Pool.workersFor_pos processors workers
  have hfour : (4 : Int64).toInt = 4 := by decide
  have height : (8 : Int64).toInt = 8 := by decide
  unfold Pool.counterLimit at h
  have hcounted : ¬(Pool.workersFor processors workers).toInt32 < 0 := by
    have hwidth : (Pool.workersFor processors workers).toInt32.toInt =
        (Pool.workersFor processors workers).toInt := by
      rw [Int64.toInt_toInt32]
      exact Int.bmod_eq_of_le (by omega) (by omega)
    rw [Int32.lt_iff_toInt_lt, hwidth]
    exact not_lt_of_gt hpos
  have hgrant : Memory.grant (Pool.workersFor processors workers) 8 =
      .ok (Pool.workersFor processors workers).toInt.toNat :=
    Memory.grant_eq_ok_iff.mpr ⟨by omega, rfl, by unfold Memory.limit; omega⟩
  have hroom : (Pool.queueRoom (Pool.workersFor processors workers)).toInt =
      max ((Pool.workersFor processors workers).toInt * 4) 8 := by
    rw [Pool.queueRoom, toInt_max, height,
      toInt_mul_of_le (by omega) (by omega) (by rw [hfour]; unfold maxInt; omega), hfour]
  have hqueue : ¬Memory.limit < Pool.queueHeader +
      (Pool.queueRoom (Pool.workersFor processors workers)).toInt.toNat * 8 := by
    rw [hroom]
    unfold Memory.limit Pool.queueHeader
    omega
  unfold Pool.start
  dsimp only
  split
  · rename_i c hrefused
    cases hgrant.symm.trans hrefused
  · rw [if_neg hqueue, if_neg hcounted]
    exact ⟨_, rfl, rfl⟩

lemma start_of_queuesFit {processors : Processors} {settings : Settings}
    (h : QueuesFit processors settings.workers) (hchunk : settings.chunk.toInt ≤ 0) :
    ∃ r, Renderer.start processors settings = .ok r ∧ Roomy r := by
  unfold QueuesFit Memory.limit at h
  dsimp only at h
  have hfew : (Pool.workersFor processors settings.workers).toInt.toNat < 2 ^ 22 := by
    by_contra hmany
    have hplaces : 2 ^ 22 * (4 * 2 ^ 22 * 8) ≤
        (Pool.workersFor processors settings.workers).toInt.toNat *
          (max (4 * (Pool.workersFor processors settings.workers).toInt.toNat) 8 * 8) :=
      Nat.mul_le_mul (by omega) (by omega)
    omega
  obtain ⟨p, hp, hworkers⟩ := start_of_counted processors settings.workers
    (by unfold Pool.counterLimit; omega)
  refine ⟨⟨settings, p⟩, by rw [Renderer.start, hp]; rfl, hchunk, ?_⟩
  dsimp only
  rw [hworkers]
  unfold Pool.counterLimit
  omega

/-- A renderer started for the job renders it. -/
def Renders (host : Host) (job : Job) (t : Tree) (report : Report) : Prop :=
  ∃ r, Renderer.start host.processors job.settings = .ok r ∧
    (r.render t job.request.path job.request.budget job.request.rows).2.outcome = .ok report

/-- The file at the path was replaced by a graymap with a number of rows, and nothing else has changed.
The graymap is read back under every cap that has room for it. -/
def LeavesImage (t after : Tree) (path : String) (rows : Int64) : Prop :=
  ∃ place bytes, Replaced t after path place bytes ∧ ∃ raster : Raster,
    (raster.height : Int) = rows.toInt ∧ headerBytes (Int64.ofNat raster.width) rows <+: bytes ∧
    ∀ maxPixels : Int64, (raster.width * raster.height : Int) ≤ pixelCap maxPixels →
      decode bytes maxPixels = .ok raster

/-- What the exit code of the command says about its arguments, the tree and the two outputs. -/
structure ExitLaw (host : Host) (arguments : List String) (t after : Tree) (outcome : Outcome) :
    Prop where
  code_cases : outcome.code = 0 ∨ outcome.code = 1 ∨ outcome.code = 2
  usage_iff : outcome.code = 2 ↔ BadUsage arguments
  success_iff : outcome.code = 0 ↔ ∃ name job report, Asks arguments name job ∧
    Renders host job t report
  stdout_iff : outcome.stdout ≠ "" ↔ outcome.code = 0
  success : outcome.code = 0 → ∃ name job, Asks arguments name job ∧
    ".pgm".toList <:+ (fileName name).toList ∧ LeavesImage t after (fileName name) job.request.rows ∧
    (job.options.verbose = false → outcome.stderr = "")
  failure : outcome.code ≠ 0 → after = t ∧ outcome.stderr ≠ ""
  stage_named : outcome.code = 1 → ∃ log f,
    outcome.stderr = log ++ ("mandelpgm: " ++ stage f ++ ": " ++ f.message ++ "\n") ∧
    NamedStage arguments t (stage f) ∧ stage f ≠ "render" ∧
    (log = "" ∨ ∃ name job, Asks arguments name job ∧ job.options.verbose = true)

lemma append_ne_empty (s : String) {ending : String} (h : ending ≠ "") : s ++ ending ≠ "" :=
  fun hempty => h (String.append_eq_empty_iff.mp hempty).2

/-- Every complaint ends its line. -/
lemma complaint_ne_empty (f : Failure) : complaint f ≠ "" := append_ne_empty _ (by decide)

lemma exitLaw_usage {arguments : List String} (host : Host) (t : Tree) (text : String)
    (h : BadUsage arguments) : ExitLaw host arguments t t ⟨2, "", text ++ usage⟩ where
  code_cases := .inr (.inr rfl)
  usage_iff := ⟨fun _ => h, fun _ => rfl⟩
  success_iff := by
    constructor
    · rintro ⟨⟩
    · rintro ⟨name, job, report, hasks, -⟩
      obtain ⟨iterations, rows, hflags, -⟩ := hasks.read
      exact absurd h (not_badUsage hflags)
  stdout_iff := by simp
  success := by rintro ⟨⟩
  failure _ := ⟨rfl, append_ne_empty text (append_ne_empty _ (by decide))⟩
  stage_named := by rintro ⟨⟩

lemma exitLaw_failure {host : Host} {arguments : List String} {t : Tree} {log : String} {f : Failure}
    (husage : ¬BadUsage arguments)
    (hfails : ∀ name job report, Asks arguments name job → ¬Renders host job t report)
    (hstage : NamedStage arguments t (stage f))
    (hlog : log = "" ∨ ∃ name job, Asks arguments name job ∧ job.options.verbose = true) :
    ExitLaw host arguments t t ⟨1, "", log ++ complaint f⟩ where
  code_cases := .inr (.inl rfl)
  usage_iff := ⟨by rintro ⟨⟩, fun h => absurd h husage⟩
  success_iff := by
    constructor
    · rintro ⟨⟩
    · rintro ⟨name, job, report, hasks, hrenders⟩
      exact absurd hrenders (hfails name job report hasks)
  stdout_iff := by simp
  success := by rintro ⟨⟩
  failure _ := ⟨rfl, append_ne_empty log (complaint_ne_empty f)⟩
  stage_named _ := ⟨log, f, rfl, hstage, namedStage_ne_render hstage, hlog⟩

lemma suffix_fileName (name : String) : ".pgm".toList <:+ (fileName name).toList := by
  unfold fileName
  split
  · rename_i h
    exact List.isSuffixOf_iff_suffix.mp h
  · rw [String.toList_append]
    exact List.suffix_append _ _

lemma leavesImage_of_render {r : Renderer} {t : Tree} {path : String} {budget rows : Int64}
    {report : Report} (h : (r.render t path budget rows).2.outcome = .ok report) :
    LeavesImage t (r.render t path budget rows).1 path rows := by
  obtain ⟨bytes, place, ⟨raster, pixels, hdraw, hpixels, rfl⟩, hreplaced⟩ :=
    (render_allOrNothing r t path budget rows).all report h
  obtain ⟨htwo, -, -, hheight, -⟩ := draw_eq_ok hdraw
  have hrows : rows = Int64.ofNat raster.height := eq_ofNat_of_toInt (by omega)
  refine ⟨place, _, hreplaced, raster, by omega, ?_, ?_⟩
  · rw [hrows]
    exact List.prefix_append _ _
  · intro maxPixels hcap
    have hdecode := decode_encode_ofRaster hpixels hcap
    rwa [encode, ofRaster, hpixels] at hdecode

lemma exitLaw_success {host : Host} {arguments : List String} {t : Tree} {name log : String} {job : Job}
    {r : Renderer} {report : Report} (hasks : Asks arguments name job)
    (hstart : Renderer.start host.processors job.settings = .ok r)
    (hrender : (r.render t job.request.path job.request.budget job.request.rows).2.outcome = .ok report)
    (hlog : job.options.verbose = false → log = "") :
    ExitLaw host arguments t (r.render t job.request.path job.request.budget job.request.rows).1
      ⟨0, host.confirmation report, log⟩ where
  code_cases := .inl rfl
  usage_iff := by
    obtain ⟨iterations, rows, hflags, -⟩ := hasks.read
    exact ⟨by rintro ⟨⟩, fun h => absurd h (not_badUsage hflags)⟩
  success_iff := ⟨fun _ => ⟨name, job, report, hasks, r, hstart, hrender⟩, fun _ => rfl⟩
  stdout_iff := ⟨fun _ => rfl, fun _ => host.confirmation_ne_empty report⟩
  success _ := ⟨name, job, hasks, suffix_fileName name, hasks.path_eq ▸ leavesImage_of_render hrender, hlog⟩
  failure h := absurd rfl h
  stage_named := by rintro ⟨⟩

/-- The records that are printed: none unless the job is verbose. -/
lemma kept_of_quiet {job : Job} (h : job.options.verbose = false) (events : List Event) :
    (job.settings.logger.getD .silent).kept events = [] := by
  unfold Job.settings
  rw [h]
  exact List.filter_eq_nil_iff.mpr (fun _ _ => by simp [Logger.isEnabled])

lemma run_of_started {host : Host} {arguments : List String} {name : String} {job : Job} {r : Renderer}
    (t : Tree) (hasks : Asks arguments name job)
    (hstart : Renderer.start host.processors job.settings = .ok r) :
    run host arguments t = ((r.render t job.request.path job.request.budget job.request.rows).1,
      job.conclude host (r.render t job.request.path job.request.budget job.request.rows).2) := by
  simp only [run, readJob_of_asks hasks, hstart]

lemma run_of_refused {host : Host} {arguments : List String} {name : String} {job : Job} {c : Crash}
    (t : Tree) (hasks : Asks arguments name job)
    (hstart : Renderer.start host.processors job.settings = .error c) :
    run host arguments t = (t, .error c) := by
  simp only [run, readJob_of_asks hasks, hstart]

lemma conclude_of_not_crashes (host : Host) (job : Job) {finished : Logged Report}
    (h : ¬Crashes finished.outcome) : ∃ outcome, job.conclude host finished = .ok outcome := by
  unfold Job.conclude
  dsimp only
  cases hout : finished.outcome with
  | ok report => exact ⟨_, rfl⟩
  | error a =>
    cases a with
    | failure f => exact ⟨_, rfl⟩
    | crash c => exact absurd ⟨c, hout⟩ h

theorem exitLaw_of_job {host : Host} {arguments : List String} {t : Tree} {name : String} {job : Job}
    {r : Renderer} {outcome : Outcome} (hasks : Asks arguments name job)
    (hstart : Renderer.start host.processors job.settings = .ok r)
    (h : job.conclude host (r.render t job.request.path job.request.budget job.request.rows).2 =
      .ok outcome) :
    ExitLaw host arguments t (r.render t job.request.path job.request.budget job.request.rows).1
      outcome := by
  unfold Job.conclude at h
  dsimp only at h
  have hquiet : job.options.verbose = false → String.join
      (((job.settings.logger.getD .silent).kept (r.render t job.request.path job.request.budget
        job.request.rows).2.events).map Event.line) = "" := by
    intro hverbose
    rw [kept_of_quiet hverbose]
    rfl
  cases hrender : (r.render t job.request.path job.request.budget job.request.rows).2.outcome with
  | ok report =>
    rw [hrender] at h
    cases h
    exact exitLaw_success hasks hstart hrender hquiet
  | error a =>
    rw [hrender] at h
    cases a with
    | crash c => cases h
    | failure f =>
      cases h
      rw [(render_allOrNothing r t _ _ _).nothing _ hrender]
      obtain ⟨iterations, rows, hflags, -⟩ := hasks.read
      refine exitLaw_failure (not_badUsage hflags) ?_
        (namedStage_of_render hasks (start_open hstart) hrender) ?_
      · rintro name' job' report hasks' ⟨r', hstart', hrender'⟩
        cases (readJob_of_asks hasks).symm.trans (readJob_of_asks hasks')
        cases hstart.symm.trans hstart'
        rw [hrender] at hrender'
        cases hrender'
      · cases hverbose : job.options.verbose with
        | false => exact .inl (hquiet hverbose)
        | true => exact .inr ⟨name, job, hasks, hverbose⟩

/-- The exit-code law, for every host, all arguments and every tree. It holds of each run that ends with an exit
code, and a run ends with one if the queues of the workers asked for can be held. -/
theorem exit_code_law (host : Host) (arguments : List String) (t : Tree) :
    ((∀ options positional, readFlags {} arguments = .ok (options, positional) →
      QueuesFit host.processors options.workers) → ∃ outcome, (run host arguments t).2 = .ok outcome) ∧
    ∀ outcome, (run host arguments t).2 = .ok outcome →
      ExitLaw host arguments t (run host arguments t).1 outcome := by
  rcases readJob_ends arguments with ⟨name, job, hasks, -⟩ | ⟨hbad, text, hread⟩ |
    ⟨hgood, f, hread, hblames⟩
  · constructor
    · intro hfit
      obtain ⟨iterations, rows, hflags, -⟩ := hasks.read
      have hqueues : QueuesFit host.processors job.settings.workers := hfit _ _ hflags
      have hchunk : job.settings.chunk = 0 := rfl
      obtain ⟨r, hstart, hroomy⟩ := start_of_queuesFit hqueues (by rw [hchunk]; decide)
      rw [run_of_started t hasks hstart]
      exact conclude_of_not_crashes host job (render_not_crashes hroomy t _ _ _)
    · intro outcome h
      cases hstart : Renderer.start host.processors job.settings with
      | error c =>
        rw [run_of_refused t hasks hstart] at h
        cases h
      | ok r =>
        rw [run_of_started t hasks hstart] at h ⊢
        exact exitLaw_of_job hasks hstart h
  · have hrun : run host arguments t = (t, .ok ⟨2, "", text ++ usage⟩) := by rw [run, hread]
    rw [hrun]
    refine ⟨fun _ => ⟨_, rfl⟩, ?_⟩
    rintro outcome ⟨⟩
    exact exitLaw_usage host t text hbad
  · have hrun : run host arguments t = (t, .ok ⟨1, "", "" ++ complaint f⟩) := by
      rw [run, hread, String.empty_append]
    rw [hrun]
    refine ⟨fun _ => ⟨_, rfl⟩, ?_⟩
    rintro outcome ⟨⟩
    refine exitLaw_failure hgood ?_ (namedStage_of_blames hblames List.mem_cons_self) (.inl rfl)
    intro name job report hasks
    rw [readJob_of_asks hasks] at hread
    cases hread

/-- Four processors: six samples are drawn; a directory that is missing stops a verbose job; one argument
is too few. -/
theorem exit_code_law_three_runs :
    let host : Host := .english ⟨4, by decide⟩
    (∃ outcome, (run host ["a", "5", "2"] .scratch).2 = .ok outcome ∧ outcome.code = 0 ∧
      ExitLaw host ["a", "5", "2"] .scratch (run host ["a", "5", "2"] .scratch).1 outcome) ∧
    (∃ outcome, (run host ["-v", "no/a", "5", "2"] .scratch).2 = .ok outcome ∧ outcome.code = 1 ∧
      ExitLaw host ["-v", "no/a", "5", "2"] .scratch
        (run host ["-v", "no/a", "5", "2"] .scratch).1 outcome) ∧
    ∃ outcome, (run host ["-workers=3", "a"] .scratch).2 = .ok outcome ∧ outcome.code = 2 ∧
      ExitLaw host ["-workers=3", "a"] .scratch (run host ["-workers=3", "a"] .scratch).1 outcome := by
  intro host
  have hrun : ∀ arguments options positional code,
      readFlags {} arguments = .ok (options, positional) →
      QueuesFit host.processors options.workers →
      (run host arguments .scratch).2.map Outcome.code = .ok code →
      ∃ outcome, (run host arguments .scratch).2 = .ok outcome ∧ outcome.code = code ∧
        ExitLaw host arguments .scratch (run host arguments .scratch).1 outcome := by
    intro arguments options positional code hflags hqueues hcode
    obtain ⟨hends, hlaw⟩ := exit_code_law host arguments .scratch
    obtain ⟨outcome, hout⟩ := hends (by
      intro options' positional' hflags'
      cases hflags.symm.trans hflags'
      exact hqueues)
    rw [hout] at hcode
    exact ⟨outcome, hout, Except.ok.inj hcode, hlaw outcome hout⟩
  have hzero : QueuesFit host.processors 0 := by unfold QueuesFit; decide
  have hthree : QueuesFit host.processors 3 := by unfold QueuesFit; decide
  refine ⟨?_, ?_, ?_⟩
  · exact hrun _ {} ["a", "5", "2"] 0 (by decide +kernel) hzero (by decide +kernel)
  · exact hrun _ { verbose := true } ["no/a", "5", "2"] 1 (by decide +kernel) hzero (by decide +kernel)
  · exact hrun _ { workers := 3 } ["a"] 2 (by decide +kernel) hthree (by decide +kernel)

end EscapeTime.Proofs
