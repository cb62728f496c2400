import EscapeTime.Proofs.StageEnds

/-!
# Sizes and the buffers made for them

The number of pixels is formed only where it is a machine integer, although the test before it divides.
Rasters and grids are made exactly where that number is given and their bytes are granted; a request that
the system refuses ends as a lack of memory.
-/

namespace EscapeTime.Proofs

/-- The computation fails, for a reason of one kind. -/
def Refuses {α : Type} (x : Except Failure α) (base : Kind) : Prop :=
  ∃ f, x = .error f ∧ Blames f base

lemma countsAs_of_blames {f : Failure} {base other : Kind} (h : Blames f base)
    (h' : Blames f other) : base.countsAs other = true := by
  rw [← h.hasKind_eq, h'.hasKind_eq]
  simp [Kind.countsAs]

lemma refuses_cause {α : Type} {x : Except Failure α} {c : Cause} (h : x = .error (.cause c)) :
    Refuses x c.kind :=
  ⟨_, h, blames_cause c⟩

/-- A computation is refused for one kind at most, unless one falls under the other. -/
lemma not_refuses {α : Type} {x : Except Failure α} {base other : Kind} (h : Refuses x base)
    (hother : base.countsAs other = false) : ¬Refuses x other := by
  rintro ⟨g, hg, hblames'⟩
  obtain ⟨f, rfl, hblames⟩ := h
  cases hg
  rw [countsAs_of_blames hblames hblames'] at hother
  cases hother

/-- Both sides are there, and their product over the unbounded integers is a machine integer within the
cap, if there is one. -/
structure ProductFits (width height cap : Int64) : Prop where
  width_pos : 0 < width.toInt
  height_pos : 0 < height.toInt
  le_maxInt : width.toInt * height.toInt ≤ maxInt
  le_cap : 0 < cap.toInt → width.toInt * height.toInt ≤ cap.toInt

lemma pixels_eq_ok_iff_fits {width height cap n : Int64} :
    Memory.pixels width height cap = .ok n ↔
      ProductFits width height cap ∧ n.toInt = width.toInt * height.toInt := by
  rw [pixels_eq_ok_iff]
  constructor
  · rintro ⟨hw, hh, hmax, hcap, hn⟩
    exact ⟨⟨hw, hh, hmax, hcap⟩, hn⟩
  · rintro ⟨⟨hw, hh, hmax, hcap⟩, hn⟩
    exact ⟨hw, hh, hmax, hcap, hn⟩

lemma pixels_of_fits {width height cap : Int64} (h : ProductFits width height cap) :
    Memory.pixels width height cap = .ok (width * height) := by
  have hw := h.width_pos
  have hh := h.height_pos
  exact pixels_eq_ok_iff_fits.mpr ⟨h, toInt_mul_of_le (by omega) (by omega) h.le_maxInt⟩

lemma pixels_of_side {width height : Int64} (cap : Int64) (h : width.toInt ≤ 0 ∨ height.toInt ≤ 0) :
    Memory.pixels width height cap = .error (.kind .rasterDimensions) := by
  apply if_pos
  rw [Int64.le_iff_toInt_le, Int64.le_iff_toInt_le]
  exact h

/-- A product that does not fit is refused for what it exceeds first, the machine integers or the cap. -/
lemma pixels_of_not_fits {width height cap : Int64} (hw : 0 < width.toInt) (hh : 0 < height.toInt)
    (h : ¬ProductFits width height cap) :
    maxInt < width.toInt * height.toInt ∧
      Memory.pixels width height cap = .error (.cause (.overflow width height)) ∨
    width.toInt * height.toInt ≤ maxInt ∧
      Memory.pixels width height cap = .error (.cause (.overLimit (width * height) cap)) := by
  by_cases hover : maxInt < width.toInt * height.toInt
  · exact .inl ⟨hover, pixels_of_overflow cap hw hh hover⟩
  · have hmax := Int.not_lt.mp hover
    have hcap : ¬(0 < cap.toInt → width.toInt * height.toInt ≤ cap.toInt) :=
      fun hcap => h ⟨hw, hh, hmax, hcap⟩
    obtain ⟨hpos, hexceeds⟩ := Classical.not_imp.mp hcap
    exact .inr ⟨hmax, pixels_of_overLimit hw hh hmax hpos (Int.not_le.mp hexceeds)⟩

lemma refuses_of_not_fits {width height cap : Int64} (hw : 0 < width.toInt) (hh : 0 < height.toInt)
    (h : ¬ProductFits width height cap) :
    Refuses (Memory.pixels width height cap) .outOfMemory := by
  rcases pixels_of_not_fits hw hh h with ⟨-, hpixels⟩ | ⟨-, hpixels⟩
  · exact refuses_cause hpixels
  · exact refuses_cause hpixels

lemma refuses_of_side {width height : Int64} (cap : Int64)
    (h : width.toInt ≤ 0 ∨ height.toInt ≤ 0) :
    Refuses (Memory.pixels width height cap) .rasterDimensions :=
  ⟨_, pixels_of_side cap h, fun _ => rfl, rfl⟩

/-- The same failure with the sides exchanged: only the text of an overflow names them. -/
def exchangeSides : Failure → Failure
  | .cause (.overflow width height) => .cause (.overflow height width)
  | f => f

lemma productFits_comm {width height cap : Int64} :
    ProductFits height width cap ↔ ProductFits width height cap := by
  have hcomm : height.toInt * width.toInt = width.toInt * height.toInt := Int.mul_comm _ _
  constructor
  · rintro ⟨hh, hw, hmax, hcap⟩
    rw [hcomm] at hmax hcap
    exact ⟨hw, hh, hmax, hcap⟩
  · rintro ⟨hw, hh, hmax, hcap⟩
    rw [← hcomm] at hmax hcap
    exact ⟨hh, hw, hmax, hcap⟩

lemma pixels_comm (width height cap : Int64) :
    Memory.pixels height width cap = (Memory.pixels width height cap).mapError exchangeSides := by
  have hcomm : height.toInt * width.toInt = width.toInt * height.toInt := Int.mul_comm _ _
  have hproduct : height * width = width * height := Int64.mul_comm height width
  by_cases hside : width.toInt ≤ 0 ∨ height.toInt ≤ 0
  · rw [pixels_of_side cap hside, pixels_of_side cap hside.symm]
    rfl
  · obtain ⟨hw, hh⟩ : 0 < width.toInt ∧ 0 < height.toInt := by omega
    by_cases hfits : ProductFits width height cap
    · rw [pixels_of_fits hfits, pixels_of_fits (productFits_comm.mpr hfits), hproduct]
      rfl
    · -- Whether it is the machine integers or the cap is decided by the product, so alike on both sides.
      have hswapped := pixels_of_not_fits hh hw fun h => hfits (productFits_comm.mp h)
      rw [hcomm] at hswapped
      rcases pixels_of_not_fits hw hh hfits with ⟨hover, hpixels⟩ | ⟨hmax, hpixels⟩
      · obtain ⟨-, hpixels'⟩ := hswapped.resolve_right fun h => Int.not_lt.mpr h.1 hover
        rw [hpixels, hpixels']
        rfl
      · obtain ⟨-, hpixels'⟩ := hswapped.resolve_left fun h => Int.not_lt.mpr hmax h.1
        rw [hpixels, hpixels', hproduct]
        rfl

/-- The number of pixels is given exactly where the product fits, and is then that product. It is refused
for its sides exactly where one is not positive, and for memory in all other cases. Exchanging the sides
changes at most their order in the text of a failure. -/
structure CountsExactly (width height cap : Int64) : Prop where
  ok_iff : ∀ n, Memory.pixels width height cap = .ok n ↔
    ProductFits width height cap ∧ n.toInt = width.toInt * height.toInt
  sides_iff : Refuses (Memory.pixels width height cap) .rasterDimensions ↔
    width.toInt ≤ 0 ∨ height.toInt ≤ 0
  memory_iff : Refuses (Memory.pixels width height cap) .outOfMemory ↔
    0 < width.toInt ∧ 0 < height.toInt ∧ ¬ProductFits width height cap
  exchange : Memory.pixels height width cap =
    (Memory.pixels width height cap).mapError exchangeSides

lemma pixels_countsExactly (width height cap : Int64) : CountsExactly width height cap := by
  refine ⟨fun n => pixels_eq_ok_iff_fits, ⟨fun hsides => ?_, refuses_of_side cap⟩,
    ⟨fun hmemory => ?_, fun h => refuses_of_not_fits h.1 h.2.1 h.2.2⟩, pixels_comm width height cap⟩
  · by_contra hpos
    obtain ⟨hw, hh⟩ : 0 < width.toInt ∧ 0 < height.toInt := by omega
    have hnot : ¬ProductFits width height cap := by
      intro hfits
      obtain ⟨f, hf, -⟩ := hsides
      rw [pixels_of_fits hfits] at hf
      cases hf
    exact not_refuses (refuses_of_not_fits hw hh hnot) (by decide) hsides
  · have hpos : ¬(width.toInt ≤ 0 ∨ height.toInt ≤ 0) :=
      fun hside => not_refuses (refuses_of_side cap hside) (by decide) hmemory
    refine ⟨by omega, by omega, fun hfits => ?_⟩
    obtain ⟨f, hf, -⟩ := hmemory
    rw [pixels_of_fits hfits] at hf
    cases hf

/-- The system grants a buffer exactly where its length is not negative and its bytes are within the limit,
and a buffer is there exactly where the system grants it. Where the grant crashes, there is a failure for
want of memory, and this quotes the crash unless the length was found negative before. -/
structure CatchesCrash (length : Int64) (size : Nat) : Prop where
  granted_iff : ∀ n, Memory.grant length size = .ok n ↔
    0 ≤ length.toInt ∧ n = length.toInt.toNat ∧ n * size ≤ Memory.limit
  ok_iff : ∀ n, Memory.reserve length size = .ok n ↔ Memory.grant length size = .ok n
  caught : ∀ c, Memory.grant length size = .error c → ∃ f, Memory.reserve length size = .error f ∧
    Blames f .outOfMemory ∧
    (0 ≤ length.toInt → f.message = Kind.outOfMemory.message ++ ": " ++ c.message)

lemma reserve_catchesCrash (length : Int64) (size : Nat) : CatchesCrash length size := by
  refine ⟨fun n => Memory.grant_eq_ok_iff, fun n => ?_, fun c hcrash => ?_⟩
  · rw [reserve_eq_ok_iff, Memory.grant_eq_ok_iff]
  · by_cases hneg : length.toInt < 0
    · have hrefused : Memory.reserve length size = .error (.cause (.negativeLength length)) :=
        if_pos (Int64.lt_iff_toInt_lt.mpr hneg)
      exact ⟨_, hrefused, blames_cause _, fun hpos => absurd hneg (Int.not_lt.mpr hpos)⟩
    · have hrefused : Memory.reserve length size = .error (.cause (.refused c)) := by
        unfold Memory.reserve
        rw [if_neg (fun h => hneg (Int64.lt_iff_toInt_lt.mp h)), hcrash]
        rfl
      exact ⟨_, hrefused, blames_cause _, fun _ => String.append_assoc.symm⟩

/-- What makes an image does it exactly where it is admitted, its number of elements is given and their
bytes are within the limit; its buffer is then as long as that number and all zero. Else it fails as the
count does, or for want of memory. -/
structure Allocates {α β : Type} (admitted : Prop) (size : Nat) (zero : β)
    (count : Except Failure Int64) (made : Except Failure α) (buffer : α → Option (Array β)) :
    Prop where
  ok_iff : (∃ a, made = .ok a) ↔
    admitted ∧ ∃ n, count = .ok n ∧ n.toInt * size ≤ Memory.limit
  blank : ∀ a, made = .ok a →
    ∃ n, count = .ok n ∧ buffer a = some (Array.replicate n.toInt.toNat zero)
  no_count : admitted → ∀ f, count = .error f → made = .error f
  no_memory : admitted → ∀ n, count = .ok n → Memory.limit < n.toInt * size →
    Refuses made .outOfMemory

lemma toNat_mul {n : Int} (size : Nat) (h : 0 ≤ n) : ((n.toNat * size : Nat) : Int) = n * size := by
  rw [Int.natCast_mul, Int.toNat_of_nonneg h]

/-- It is enough to know that the buffer is the one allocated for the count. -/
lemma allocates_of_map {α β : Type} {admitted : Prop} {size : Nat} {zero : β}
    {count : Except Failure Int64} {made : Except Failure α} {buffer : α → Option (Array β)}
    (hadmitted : ∀ a, made = .ok a → admitted) (hcount : ∀ n, count = .ok n → 0 ≤ n.toInt)
    (hmade : admitted →
      made.map buffer = (count >>= fun n => Memory.allocate n size zero).map some) :
    Allocates admitted size zero count made buffer := by
  have hallocated : ∀ a, made = .ok a → ∃ n, count = .ok n ∧ n.toInt.toNat * size ≤ Memory.limit ∧
      buffer a = some (Array.replicate n.toInt.toNat zero) := by
    intro a ha
    have hbuffer := hmade (hadmitted a ha)
    rw [ha] at hbuffer
    obtain ⟨zeros, hzeros, hsome⟩ := map_eq_ok hbuffer.symm
    obtain ⟨n, hn, hallocate⟩ := bind_eq_ok hzeros
    obtain ⟨-, rfl, hfit⟩ := Memory.allocate_eq_ok hallocate
    exact ⟨n, hn, hfit, hsome.symm⟩
  constructor
  · constructor
    · rintro ⟨a, ha⟩
      obtain ⟨n, hn, hfit, -⟩ := hallocated a ha
      have hbytes := toNat_mul size (hcount n hn)
      exact ⟨hadmitted a ha, n, hn, by omega⟩
    · rintro ⟨hallowed, n, hn, hfit⟩
      have hbytes := toNat_mul size (hcount n hn)
      have hreserve : Memory.reserve n size = .ok n.toInt.toNat :=
        reserve_eq_ok_iff.mpr ⟨hcount n hn, rfl, by omega⟩
      have hbuffer := hmade hallowed
      rw [hn] at hbuffer
      change _ = ((Memory.reserve n size).map _).map some at hbuffer
      rw [hreserve] at hbuffer
      obtain ⟨a, ha, -⟩ := map_eq_ok hbuffer
      exact ⟨a, ha⟩
  · intro a ha
    obtain ⟨n, hn, -, hzeros⟩ := hallocated a ha
    exact ⟨n, hn, hzeros⟩
  · intro hallowed f hf
    have hbuffer := hmade hallowed
    rw [hf] at hbuffer
    exact map_eq_error hbuffer
  · intro hallowed n hn hover
    have hbytes := toNat_mul size (hcount n hn)
    have hbuffer := hmade hallowed
    rw [hn] at hbuffer
    change _ = ((Memory.reserve n size).map _).map some at hbuffer
    rw [reserve_of_refused (hcount n hn) (by omega)] at hbuffer
    exact refuses_cause (map_eq_error hbuffer)

lemma toInt_nonneg_of_pixels {width height cap n : Int64}
    (h : Memory.pixels width height cap = .ok n) : 0 ≤ n.toInt := by
  obtain ⟨hw, hh, hn⟩ := Memory.pixels_eq_ok h
  have hpos : 0 < width.toInt * height.toInt := Int.mul_pos hw hh
  omega

lemma raster_allocates (width height cap : Int64) :
    Allocates True 1 0 (Memory.pixels width height cap) (Raster.new width height cap)
      Raster.pixels := by
  refine allocates_of_map (fun _ _ => trivial) (fun n => toInt_nonneg_of_pixels) fun _ => ?_
  unfold Raster.new
  rw [build_map_pixels]
  cases Memory.pixels width height cap with
  | error f => rfl
  | ok n =>
    change (Memory.reserve n 1 >>= _) = ((Memory.reserve n 1).map _).map some
    cases Memory.reserve n 1 <;> rfl

lemma grid_allocates (rows cols cap : Int64) :
    Allocates (2 ≤ rows.toInt ∧ 2 ≤ cols.toInt) 4 0 (Memory.pixels cols rows cap)
      (Grid.new rows cols cap) (fun grid => some grid.counts) := by
  refine allocates_of_map (fun grid hgrid => ?_) (fun n => toInt_nonneg_of_pixels) ?_
  · obtain ⟨hrows, hcols, -⟩ := new_grid_eq_ok hgrid
    exact ⟨hrows, hcols⟩
  · rintro ⟨hrows, hcols⟩
    change _ = (Memory.pixels cols rows cap >>= fun n =>
      Memory.allocate n Grid.countSize 0).map some
    rw [← new_grid_map_counts cap hrows hcols]
    cases Grid.new rows cols cap <;> rfl

lemma new_grid_of_small {rows cols : Int64} (cap : Int64)
    (h : ¬(2 ≤ rows.toInt ∧ 2 ≤ cols.toInt)) : Refuses (Grid.new rows cols cap) .dimension := by
  have htwo : (2 : Int64).toInt = 2 := by decide
  have hshape : rows < 2 ∨ cols < 2 := by
    rw [Int64.lt_iff_toInt_lt, Int64.lt_iff_toInt_lt]
    omega
  exact refuses_cause (c := .gridShape rows cols) (dif_pos hshape)

/-- Sizes never wrap, and what is made has these sizes. For all machine integers the number of pixels is
the product over the unbounded integers or is refused; rasters, at a byte a pixel, and grids, at four
bytes a count, are made exactly where the number is given and the bytes are within the limit; and no
request crashes. -/
theorem allocation_exact :
    (∀ width height cap : Int64, CountsExactly width height cap) ∧
    (∀ width height cap : Int64, Allocates True 1 0 (Memory.pixels width height cap)
      (Raster.new width height cap) Raster.pixels) ∧
    (∀ rows cols cap : Int64,
      Allocates (2 ≤ rows.toInt ∧ 2 ≤ cols.toInt) 4 0 (Memory.pixels cols rows cap)
        (Grid.new rows cols cap) (fun grid => some grid.counts) ∧
      (¬(2 ≤ rows.toInt ∧ 2 ≤ cols.toInt) → Refuses (Grid.new rows cols cap) .dimension)) ∧
    ∀ (length : Int64) (size : Nat), CatchesCrash length size :=
  ⟨pixels_countsExactly, raster_allocates,
    fun rows cols cap => ⟨grid_allocates rows cols cap, new_grid_of_small cap⟩, reserve_catchesCrash⟩

/-- Sides whose product is the largest machine integer are counted, but no raster is made of so many
pixels; with one row more the product is refused, whichever side comes first. -/
theorem allocation_exact_largest_product :
    Memory.pixels 7 1317624576693539401 0 = .ok 9223372036854775807 ∧
      Refuses (Raster.new 7 1317624576693539401 0) .outOfMemory ∧
      Refuses (Memory.pixels 8 1317624576693539401 0) .outOfMemory ∧
      Refuses (Memory.pixels 1317624576693539401 8 0) .outOfMemory ∧
      ∃ f, Memory.reserve 9223372036854775807 1 = .error f ∧
        f.message = "raster: out of memory: runtime error: makeslice: len out of range" := by
  obtain ⟨hcounts, hraster, -, hcatches⟩ := allocation_exact
  have hlargest : Memory.pixels 7 1317624576693539401 0 = .ok 9223372036854775807 :=
    ((hcounts 7 1317624576693539401 0).ok_iff _).mpr
      ⟨⟨by decide, by decide, by decide, by decide⟩, by decide⟩
  obtain ⟨f, hf, -, hmessage⟩ :=
    (hcatches 9223372036854775807 1).caught .refusedLength (by decide)
  refine ⟨hlargest, ?_, ?_, ?_, f, hf, ?_⟩
  · exact (hraster 7 1317624576693539401 0).no_memory trivial _ hlargest (by decide)
  · refine (hcounts 8 1317624576693539401 0).memory_iff.mpr ⟨by decide, by decide, fun hfits => ?_⟩
    exact absurd hfits.le_maxInt (by decide)
  · refine (hcounts 1317624576693539401 8 0).memory_iff.mpr ⟨by decide, by decide, fun hfits => ?_⟩
    exact absurd hfits.le_maxInt (by decide)
  · rw [hmessage (by decide)]
    decide

end EscapeTime.Proofs
