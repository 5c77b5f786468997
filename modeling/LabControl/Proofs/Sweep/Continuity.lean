/-
# Jumps of the step channel

In exact arithmetic neighbouring writes of a ramp lie one interval apart, and a ramp that follows a
complete one begins where that ended.  The ramp of the cleanup begins at the value that was last
reached *completely*.  After a ramp that failed part way this is not where the channel was last
commanded to, and the theorem of this module says exactly when the difference is a jump.
-/
import LabControl.Proofs.Exact
import LabControl.Proofs.Sweep.Autosweep
import LabControl.Proofs.Sweep.Ramps
import Mathlib.Tactic.FieldSimp
import Mathlib.Tactic.Positivity
import Mathlib.Tactic.Ring

namespace LabControl.Sweep

/-! ## 1. Jumps -/

/-- Each write lies within one interval of its ramp from the write before it. -/
def Gentle (n : Nat) : ℚ → List (Ramp ℚ) → Prop
  | _, [] => True
  | last, ramp :: rest =>
    (last :: ramp.written).IsChain (fun x y => |y - x| ≤ |ramp.finish - ramp.start| / n) ∧
      Gentle n (ramp.written.getLastD last) rest

/-- **No jumps**: the first write is the initial value, and each later one lies within one interval
of its ramp from the write before it. -/
def NoJumps (n : Nat) (initial : ℚ) (ramps : List (Ramp ℚ)) : Prop :=
  (∀ first ∈ (ramps.flatMap Ramp.written).head?, first = initial) ∧ Gentle n initial ramps

section Runs

variable [Wording]

/-- The first writes of a ramp of `n` intervals. -/
def rampUpTo (n m : Nat) (start finish : ℚ) : Ramp ℚ :=
  ⟨start, finish, (rampValues start finish n).take m⟩

/-- Complete ramps from target to target. -/
def fullRamps (n : Nat) : ℚ → List ℚ → List (Ramp ℚ)
  | _, [] => []
  | held, target :: rest => rampUpTo n (n + 1) held target :: fullRamps n target rest

/-- A ramp of which some writes were sent, or none. -/
def cutRamp (n m : Nat) (start finish : ℚ) : List (Ramp ℚ) :=
  if m = 0 then [] else [rampUpTo n m start finish]

/-- The value that is held once the first `k` targets are reached. -/
def reached (held : ℚ) (targets : List ℚ) (k : Nat) : ℚ := (targets.take k).getLastD held

/-- The target after the first `k`. -/
def nextTarget (held : ℚ) (targets : List ℚ) (k : Nat) : ℚ :=
  targets.getD k (reached held targets k)

/-- Complete ramps to the first `k` targets, and `j` writes of the ramp to the next. -/
def rampsThrough (n : Nat) (held : ℚ) (targets : List ℚ) (k j : Nat) : List (Ramp ℚ) :=
  fullRamps n held (targets.take k) ++
    cutRamp n j (reached held targets k) (nextTarget held targets k)

section Arithmetic

variable {n m : Nat} (a b x : ℚ)

theorem getElem_rampValues (hn : 1 ≤ n) {i : Nat} (hi : i < (rampValues a b n).length) :
    (rampValues a b n)[i] = a + (b - a) * i / n := by
  have hmap : rampValues a b n = (List.range (n + 1)).map fun i : Nat =>
      a + (b - a) * (i : ℚ) / (n : ℚ) := by
    simp only [rampValues, if_neg (Nat.ne_of_gt hn)]
    rfl
  simp [hmap]

/-- A ramp begins at its start. -/
theorem rampValues_eq_cons (hn : 1 ≤ n) : ∃ later, rampValues a b n = a :: later := by
  rcases hs : rampValues a b n with _ | ⟨first, later⟩
  · have hlength := length_rampValues a b n
    simp [hs] at hlength
  · have hfirst := getElem_rampValues a b hn (i := 0) (by simp [hs])
    simp [hs] at hfirst
    exact ⟨later, by rw [hfirst]⟩

/-- **Neighbours in a ramp lie one interval apart.** -/
theorem isChain_rampValues (hn : 1 ≤ n) :
    (rampValues a b n).IsChain fun x y => |y - x| ≤ |b - a| / n := by
  rw [List.isChain_iff_getElem]
  intro i hi
  have hpos : (0 : ℚ) < n := by exact_mod_cast hn
  rw [getElem_rampValues a b hn, getElem_rampValues a b hn]
  have hstep : a + (b - a) * ((i + 1 : Nat) : ℚ) / n - (a + (b - a) * i / n) = (b - a) / n := by
    push_cast
    ring
  rw [hstep, abs_div, abs_of_pos hpos]

theorem written_rampUpTo_eq_cons (hn : 1 ≤ n) (hm : 1 ≤ m) :
    ∃ later, (rampUpTo n m a b).written = a :: later := by
  obtain ⟨later, hlater⟩ := rampValues_eq_cons a b hn
  obtain ⟨m, rfl⟩ := Nat.exists_eq_add_of_le' hm
  exact ⟨later.take m, by rw [rampUpTo, hlater, List.take_succ_cons]⟩

/-- Within a ramp there is no jump, so only its first write can be one. -/
theorem isChain_rampUpTo_iff (hn : 1 ≤ n) (hm : 1 ≤ m) :
    (x :: (rampUpTo n m a b).written).IsChain (fun x y => |y - x| ≤ |b - a| / n) ↔
      |a - x| ≤ |b - a| / n := by
  obtain ⟨later, hlater⟩ := written_rampUpTo_eq_cons a b hn hm
  have hchain : (rampUpTo n m a b).written.IsChain fun x y => |y - x| ≤ |b - a| / n :=
    (isChain_rampValues a b hn).take m
  rw [hlater] at hchain ⊢
  rw [List.isChain_cons_cons, and_iff_left hchain]

/-- Where a ramp has got to after its first writes. -/
theorem getLastD_rampUpTo (hn : 1 ≤ n) (hm : 1 ≤ m) (hm' : m ≤ n + 1) :
    (rampUpTo n m a b).written.getLastD x = a + (b - a) * ((m - 1 : Nat) : ℚ) / n := by
  have hlength : ((rampValues a b n).take m).length = m := by
    rw [List.length_take, length_rampValues]
    omega
  have hne : (rampValues a b n).take m ≠ [] := by
    intro h
    simp [h] at hlength
    omega
  have hlast : ((rampValues a b n).take m).getLastD x =
      ((rampValues a b n).take m).getLast hne := by
    rw [List.getLastD_eq_getLast?, List.getLast?_eq_getLast_of_ne_nil hne, Option.getD_some]
  rw [rampUpTo, hlast, List.getLast_eq_getElem, List.getElem_take, getElem_rampValues a b hn]
  rw [hlength]

theorem getLastD_fullRamp (hn : 1 ≤ n) : (rampUpTo n (n + 1) a b).written.getLastD x = b := by
  have hpos : (n : ℚ) ≠ 0 := by exact_mod_cast Nat.ne_of_gt hn
  rw [getLastD_rampUpTo a b x hn (by omega) (Nat.le_refl _), Nat.add_sub_cancel]
  field_simp
  ring

/-- Complete ramps, each from the end of the one before, are gentle. -/
theorem gentle_fullRamps_append (hn : 1 ≤ n) (held : ℚ) (targets : List ℚ)
    (rest : List (Ramp ℚ)) :
    Gentle n held (fullRamps n held targets ++ rest) ↔ Gentle n (targets.getLastD held) rest := by
  induction targets generalizing held with
  | nil => exact Iff.rfl
  | cons target targets ih =>
    have hjoin : (held :: (rampUpTo n (n + 1) held target).written).IsChain
        fun x y => |y - x| ≤ |target - held| / n := by
      rw [isChain_rampUpTo_iff held target held hn (by omega), sub_self, abs_zero]
      positivity
    rw [fullRamps, List.cons_append, Gentle, getLastD_fullRamp held target held hn, ih target,
      List.getLastD_cons]
    exact and_iff_right hjoin

/-- **A ramp that is broken off, and the ramp home.**  The ramp home begins where the broken one
began, so the jump is all that the broken one had moved. -/
theorem gentle_cutRamp_append (hn : 1 ≤ n) {j i : Nat} (hj : j ≤ n + 1) (hi : 1 ≤ i)
    (held next home : ℚ) :
    Gentle n held (cutRamp n j held next ++ [rampUpTo n i held home]) ↔
      ((j - 1 : Nat) : ℚ) * |next - held| ≤ |home - held| := by
  have hpos : (0 : ℚ) < n := by exact_mod_cast hn
  have hhome (last : ℚ) : Gentle n last [rampUpTo n i held home] ↔
      |held - last| ≤ |home - held| / n := by
    rw [Gentle, Gentle, and_true]
    exact isChain_rampUpTo_iff held home last hn hi
  rcases Nat.eq_zero_or_pos j with rfl | hj'
  · rw [cutRamp, if_pos rfl, List.nil_append, hhome, sub_self, abs_zero]
    refine ⟨fun _ => ?_, fun _ => by positivity⟩
    simp
  · have hstart : (held :: (rampUpTo n j held next).written).IsChain
        fun x y => |y - x| ≤ |next - held| / n := by
      rw [isChain_rampUpTo_iff held next held hn hj', sub_self, abs_zero]
      positivity
    have hmoved : held - (held + (next - held) * ((j - 1 : Nat) : ℚ) / n) =
        -(((j - 1 : Nat) : ℚ) * (next - held) / n) := by
      ring
    rw [cutRamp, if_neg (by omega), List.singleton_append, Gentle, hhome,
      getLastD_rampUpTo held next held hn hj' hj, hmoved, abs_neg, abs_div, abs_of_pos hpos,
      abs_mul, Nat.abs_cast, div_le_div_iff_of_pos_right hpos]
    exact and_iff_right hstart

/-- The first write of all is where the step channel started. -/
theorem head?_written (hn : 1 ≤ n) {j i : Nat} (hi : 1 ≤ i) (initial next home : ℚ)
    (targets : List ℚ) :
    ((fullRamps n initial targets ++ cutRamp n j (targets.getLastD initial) next ++
      [rampUpTo n i (targets.getLastD initial) home]).flatMap Ramp.written).head? =
        some initial := by
  rcases targets with _ | ⟨target, targets⟩
  · rcases Nat.eq_zero_or_pos j with rfl | hj
    · obtain ⟨later, hlater⟩ := written_rampUpTo_eq_cons initial home hn hi
      simp [fullRamps, cutRamp, hlater]
    · obtain ⟨later, hlater⟩ := written_rampUpTo_eq_cons initial next hn hj
      simp [fullRamps, cutRamp, Nat.ne_of_gt hj, hlater]
  · obtain ⟨later, hlater⟩ := written_rampUpTo_eq_cons initial target hn (m := n + 1) (by omega)
    simp [fullRamps, hlater]

end Arithmetic

/-! ## 2. The ramps of a run -/

variable {e : Engine} {plan : Plan ℚ} {token : Token} {channel output : Nat} {home : ℚ}
  {targets : List ℚ}

/-- A pair moves nothing, and begins with a published state. -/
theorem ramps_pair (output : Nat) (home : ℚ) {index : Nat} {held held' : Option ℚ}
    {t : History ℚ} {r : Except ControlError Unit}
    (h : Follows token channel (pairScript plan index) held t held' r) (rest : History ℚ) :
    held' = held ∧ History.writes output t = [] ∧ Announced (t ++ rest) ∧
      ramps output home (t ++ rest) = ramps output home rest := by
  rw [pairScript_eq] at h
  refine ⟨h.held_eq_of_no_arrival (by simp), h.writes_eq_nil (by simp), ?_,
    ramps_append_of_idle ?_⟩
  · cases h with
    | announce h =>
      intro o ho
      cases ho
      rfl
  · intro state hstate
    have hmem := h.announce_mem hstate
    simp only [List.mem_cons, List.not_mem_nil, reduceCtorEq, Step.announce.injEq, or_false,
      false_or] at hmem
    rcases hmem with rfl | rfl | rfl
    · cases plan.firstLeg <;> rfl
    · cases plan.firstLeg.opposite <;> rfl
    · rfl

/-- A published state with its ramp, and what follows it in silence. -/
theorem ramps_ramp (hn : 1 ≤ e.rampPoints) {state : State ℚ} {start finish : ℚ}
    (hend : rampEnd home state = some finish) {held held' : Option ℚ} {u v rest : History ℚ}
    {r : Except ControlError Unit}
    (hu : Follows token channel (orders (rampWrites e output start finish)) held u held' r)
    (hv : History.writes output v = [] ∧ v.states = []) (hrest : Announced rest) :
    ∃ m, 1 ≤ m ∧ m ≤ e.rampPoints + 1 ∧ (r = .ok () → m = e.rampPoints + 1) ∧
      History.writes output (u ++ v) = (rampUpTo e.rampPoints m start finish).written ∧
      ramps output home (.published state :: (u ++ v ++ rest)) =
        rampUpTo e.rampPoints m start finish :: ramps output home rest := by
  rw [rampWrites] at hu
  obtain ⟨-, hstates⟩ := follows_orders hu
  obtain ⟨m, hm, hwrites, hok, herror⟩ := follows_writes hu
  rw [length_rampValues] at hm hok
  have hpos : 1 ≤ m := by
    rcases r with error | ⟨⟩
    · exact herror error rfl
    · rw [hok rfl]
      omega
  obtain ⟨later, hlater⟩ := written_rampUpTo_eq_cons start finish hn hpos
  have hall : History.writes output (u ++ v) = (rampUpTo e.rampPoints m start finish).written := by
    rw [writes_append, hv.1, List.append_nil, hwrites]
    rfl
  refine ⟨m, hpos, hm, hok, hall, ?_⟩
  have hsilent : (u ++ v).states = [] := by
    rw [History.states_append, hstates, hv.2, List.append_nil]
  rw [ramps_published hend hsilent (hall.trans hlater) hrest, ← hlater]
  rfl

/-- **A history moves the step channel** completely to the first `k` targets, and `j` writes far to
the next, before the rest follows. -/
structure Moves (n output : Nat) (home held : ℚ) (targets : List ℚ) (k j : Nat)
    (t rest : History ℚ) (held' : Option ℚ) : Prop where
  length_le : k ≤ targets.length
  next_exists : 0 < j → k < targets.length
  cut_le : j ≤ n + 1
  held_eq : held' = some (reached held targets k)
  writes_eq : History.writes output t = (rampsThrough n held targets k j).flatMap Ramp.written
  ramps_eq : ramps output home (t ++ rest) =
    rampsThrough n held targets k j ++ ramps output home rest

/-- A history that writes nothing and publishes no state with a ramp moves nothing. -/
theorem moves_nothing {n : Nat} {held : ℚ} {targets : List ℚ} {t rest : History ℚ}
    (hwrites : History.writes output t = [])
    (hramps : ramps output home (t ++ rest) = ramps output home rest) :
    Moves n output home held targets 0 0 t rest (some held) where
  length_le := Nat.zero_le _
  next_exists h := absurd h (Nat.lt_irrefl 0)
  cut_le := Nat.zero_le _
  held_eq := rfl
  writes_eq := hwrites
  ramps_eq := hramps

/-- A ramp that is broken off, with nothing after it. -/
theorem moves_broken {n m total index : Nat} {held target : ℚ} {targets : List ℚ}
    {u rest : History ℚ} (hpos : 1 ≤ m) (hm : m ≤ n + 1)
    (hwrites : History.writes output u = (rampUpTo n m held target).written)
    (hramps : ramps output home (.published (.stepping index total target) :: (u ++ rest)) =
      rampUpTo n m held target :: ramps output home rest) :
    Moves n output home held (target :: targets) 0 m
      (.published (.stepping index total target) :: u) rest (some held) := by
  have hthrough : rampsThrough n held (target :: targets) 0 m = [rampUpTo n m held target] :=
    if_neg (Nat.ne_of_gt hpos)
  refine ⟨Nat.zero_le _, fun _ => Nat.succ_pos _, hm, rfl, ?_, ?_⟩
  · rw [hthrough, List.flatMap_singleton, writes_cons]
    exact hwrites
  · rw [hthrough]
    exact hramps

/-- A complete ramp and its pair, before more is moved. -/
theorem Moves.cons {n total index : Nat} {held target : ℚ} {targets : List ℚ} {k j : Nat}
    {u v w rest : History ℚ} {held' : Option ℚ}
    (h : Moves n output home target targets k j w rest held')
    (hwrites : History.writes output u = (rampUpTo n (n + 1) held target).written)
    (hnone : History.writes output v = [])
    (hramps : ramps output home
        (.published (.stepping index total target) :: (u ++ (v ++ (w ++ rest)))) =
      rampUpTo n (n + 1) held target :: ramps output home (v ++ (w ++ rest)))
    (hidle : ramps output home (v ++ (w ++ rest)) = ramps output home (w ++ rest)) :
    Moves n output home held (target :: targets) (k + 1) j
      (.published (.stepping index total target) :: u ++ (v ++ w)) rest held' := by
  have hreached : reached held (target :: targets) (k + 1) = reached target targets k := by
    rw [reached, List.take_succ_cons, List.getLastD_cons, reached]
  have hthrough : rampsThrough n held (target :: targets) (k + 1) j =
      rampUpTo n (n + 1) held target :: rampsThrough n target targets k j := by
    rw [rampsThrough, nextTarget, hreached, List.take_succ_cons, List.getD_cons_succ]
    rfl
  refine ⟨Nat.succ_le_succ h.length_le, fun hj => Nat.succ_lt_succ (h.next_exists hj), h.cut_le,
    ?_, ?_, ?_⟩
  · rw [hreached]
    exact h.held_eq
  · rw [hthrough, List.flatMap_cons, List.cons_append, writes_cons, writes_append, writes_append,
      hwrites, hnone, h.writes_eq]
    rfl
  · have hassoc : .published (.stepping index total target) :: u ++ (v ++ w) ++ rest =
        .published (.stepping index total target) :: (u ++ (v ++ (w ++ rest))) := by
      simp
    rw [hthrough, hassoc, hramps, hidle, h.ramps_eq, List.cons_append]

/-- **The ramps of stepped blocks**: complete ones to the first targets, and perhaps a broken one
to the next.  The step channel is held to be at the last target that was reached. -/
theorem moves_steppedBlocks (hn : 1 ≤ e.rampPoints) {total index : Nat} {held : ℚ}
    {held' : Option ℚ} {targets : List ℚ} {t rest : History ℚ} {r : Except ControlError Unit}
    (h : Follows token channel (steppedBlocks e plan output total index held targets) (some held) t
      held' r) (hrest : Announced rest) :
    ∃ k j, Moves e.rampPoints output home held targets k j t rest held' := by
  induction targets generalizing held index t with
  | nil =>
    cases h with
    | done held => exact ⟨0, 0, moves_nothing rfl rfl⟩
  | cons target targets ih =>
    have hsilent : History.writes output ([] : History ℚ) = [] ∧
        History.states ([] : History ℚ) = [] := ⟨rfl, rfl⟩
    have hend : rampEnd home (.stepping index total target : State ℚ) = some target := rfl
    rw [steppedBlocks, steppedBlock, List.append_assoc] at h
    rcases h.split with ⟨error, rfl, hramp⟩ | ⟨mid, t₁, t₂, hramp, hlater, rfl⟩
    · -- the ramp of this block is broken off
      cases hramp with
      | announce hramp =>
        obtain ⟨rfl, -⟩ := follows_orders hramp
        obtain ⟨m, hpos, hm, -, hwrites, hramps⟩ := ramps_ramp hn hend hramp hsilent hrest
        rw [List.append_nil] at hwrites hramps
        exact ⟨0, m, moves_broken hpos hm hwrites hramps⟩
    · -- the ramp of this block is complete
      cases hramp with
      | announce hramp =>
      obtain ⟨rfl, -⟩ := follows_orders hramp
      cases hlater with
      | arrive hlater =>
      rcases hlater.split with ⟨error, rfl, hpair⟩ | ⟨mid, t₃, t₄, hpair, hblocks, rfl⟩
      · obtain ⟨rfl, hnone, hannounced, hidle⟩ := ramps_pair output home hpair rest
        obtain ⟨m, -, -, hok, hwrites, hramps⟩ := ramps_ramp hn hend hramp hsilent hannounced
        obtain rfl := hok rfl
        rw [List.append_nil] at hwrites hramps
        have hstay : Moves e.rampPoints output home target targets 0 0 [] rest (some target) :=
          moves_nothing rfl rfl
        have hmoves := hstay.cons hwrites hnone hramps hidle
        rw [List.append_nil] at hmoves
        exact ⟨1, 0, hmoves⟩
      · obtain ⟨rfl, hnone, hannounced, hidle⟩ := ramps_pair output home hpair (t₄ ++ rest)
        obtain ⟨k, j, hmoves⟩ := ih hblocks
        obtain ⟨m, -, -, hok, hwrites, hramps⟩ := ramps_ramp hn hend hramp hsilent hannounced
        obtain rfl := hok rfl
        rw [List.append_nil] at hwrites hramps
        exact ⟨k + 1, j, hmoves.cons hwrites hnone hramps hidle⟩

/-- The ramps of a body. -/
theorem moves_body (hn : 1 ≤ e.rampPoints) {targets : List ℚ}
    (hsteps : plan.steps = .stepping output targets) {tag : String} {initial : ℚ}
    {held : Option ℚ} {t rest : History ℚ} {r : Except ControlError Unit}
    (h : Follows token channel (bodyScript e plan (some initial) tag) (some initial) t held r)
    (hrest : Announced rest) :
    ∃ k j, Moves e.rampPoints output home initial targets k j t rest held := by
  have hprepare {t : History ℚ} {held : Option ℚ} {r : Except ControlError Unit}
      (h : Follows token channel (.announce .clearBuffer :: orders (idQueries plan.channel) ++
        orders (settings tag)) (some initial) t held r) (rest : History ℚ) :
      held = some initial ∧ History.writes output t = [] ∧
        ramps output home (t ++ rest) = ramps output home rest := by
    refine ⟨h.held_eq_of_no_arrival (by simp [orders]),
      h.writes_eq_nil (by simp [orders, idQueries, settings]),
      ramps_append_of_idle fun state hstate => ?_⟩
    obtain rfl : state = .clearBuffer := by
      simpa [orders] using h.announce_mem hstate
    rfl
  have hblocks {t : History ℚ}
      (h : Follows token channel (blocks e plan (some initial)) (some initial) t held r) :
      ∃ k j, Moves e.rampPoints output home initial targets k j t rest held := by
    rcases targets with _ | ⟨target, targets⟩
    · simp only [blocks, hsteps] at h
      obtain ⟨rfl, hnone, -, hidle⟩ := ramps_pair output home h rest
      exact ⟨0, 0, moves_nothing hnone hidle⟩
    · simp only [blocks, hsteps] at h
      exact moves_steppedBlocks hn h hrest
  rcases h.split with ⟨error, rfl, hp⟩ | ⟨mid, t₁, t₂, hp, hb, rfl⟩
  · obtain ⟨rfl, hnone, hidle⟩ := hprepare hp rest
    exact ⟨0, 0, moves_nothing hnone hidle⟩
  · obtain ⟨rfl, hnone, hidle⟩ := hprepare hp (t₂ ++ rest)
    obtain ⟨k, j, hmoves⟩ := hblocks hb
    refine ⟨k, j, hmoves.length_le, hmoves.next_exists, hmoves.cut_le, hmoves.held_eq, ?_, ?_⟩
    · rw [writes_append, hnone, List.nil_append, hmoves.writes_eq]
    · rw [List.append_assoc, hidle, hmoves.ramps_eq]

/-- The ramp of a cleanup. -/
theorem ramps_cleanup (hn : 1 ≤ e.rampPoints) (hsteps : plan.steps.stepChannel? = some output)
    {held : ℚ} {t : History ℚ} {r : Except ControlError Unit}
    (h : Restores e plan (some home) (some held) t r) (final : State ℚ) :
    ∃ i, 1 ≤ i ∧ i ≤ e.rampPoints + 1 ∧
      History.writes output t = (rampUpTo e.rampPoints i held home).written ∧
      ramps output home (t ++ [.published final]) = [rampUpTo e.rampPoints i held home] := by
  obtain ⟨hback, hzero, d⟩ := h
  have hwrites : backWrites e plan (some home) (some held) = rampWrites e output held home := by
    simp only [backWrites, hsteps]
  rw [hwrites] at hback
  obtain ⟨hnone, hsilent⟩ := hzero.silent
  have hlater : History.writes output (_ ++ [.ordered (.setRecording false) d]) = [] ∧
      History.states (_ ++ [.ordered (.setRecording false) d]) = [] :=
    ⟨by rw [writes_append, hnone]; rfl, by rw [History.states_append, hsilent]; rfl⟩
  have hfinal : Announced [.published final] := by
    intro o ho
    cases ho
    rfl
  have hdone : ramps output home [.published final] = [] := by
    cases final <;> rfl
  have hend : rampEnd home (.restore : State ℚ) = some home := rfl
  obtain ⟨i, hi, hin, -, hwritten, hramps⟩ := ramps_ramp hn hend hback hlater hfinal
  refine ⟨i, hi, hin, ?_, ?_⟩
  · rw [← hwritten, List.cons_append, List.cons_append, writes_cons, List.append_assoc]
    rfl
  · rw [← hdone, ← hramps]
    simp

theorem Restores.announced {start held : Option ℚ} {t : History ℚ}
    {r : Except ControlError Unit} (h : Restores e plan start held t r) (rest : History ℚ) :
    Announced (t ++ rest) := by
  obtain ⟨hback, hzero, d⟩ := h
  intro o ho
  cases ho
  rfl

/-- A passed check moves nothing. -/
theorem Checked.ramps_append {start : Option ℚ} {guard : History ℚ}
    (h : Checked e plan start guard) (output : Nat) (home : ℚ) (rest : History ℚ) :
    History.writes output guard = [] ∧
      ramps output home (guard ++ rest) = ramps output home rest := by
  cases h with
  | swept hsteps hknown => exact ⟨rfl, rfl⟩
  | stepped hsteps hknown hknown' => exact ⟨rfl, rfl⟩

/-- A run that does not pass its check moves nothing. -/
theorem Autosweeps.writes_of_unchecked {t : History ℚ} {r : Except ControlError Outcome}
    (h : Autosweeps e plan t r) (hsteps : plan.steps.stepChannel? = some output)
    (hunchecked : ∀ initial guard, Checked e plan (some initial) guard → ¬ guard <+: t) :
    History.writes output t = [] := by
  cases h with
  | cancelled => rfl
  | unread fault => rfl
  | unknown h => rfl
  | stepUnread hsteps' h fault => rfl
  | stepUnknown hsteps' h h' => rfl
  | ran hguard hbody hcleanup =>
    cases hguard with
    | swept hnone hknown =>
      rw [hsteps] at hnone
      cases hnone
    | stepped hsome hknown hknown' =>
      exact absurd (List.prefix_append _ _) (hunchecked _ _ (.stepped hsome hknown hknown'))

/-! ## 3. When there are no jumps -/

/-- Complete ramps, perhaps a broken one, and the ramp home: only the last may begin with a
jump. -/
theorem noJumps_iff {n k j i : Nat} (hn : 1 ≤ n) (hj : j ≤ n + 1) (hi : 1 ≤ i) (initial : ℚ)
    (targets : List ℚ) :
    NoJumps n initial (rampsThrough n initial targets k j ++
        [rampUpTo n i (reached initial targets k) initial]) ↔
      ((j - 1 : Nat) : ℚ) * |nextTarget initial targets k - reached initial targets k| ≤
        |initial - reached initial targets k| := by
  have hfirst : ∀ first ∈ ((rampsThrough n initial targets k j ++
      [rampUpTo n i (reached initial targets k) initial]).flatMap Ramp.written).head?,
      first = initial := by
    intro first hmem
    rw [rampsThrough, reached, head?_written hn hi] at hmem
    exact (Option.some.inj hmem).symm
  rw [NoJumps, and_iff_right hfirst, rampsThrough, List.append_assoc,
    gentle_fullRamps_append hn]
  exact gentle_cutRamp_append hn hj hi _ _ _

/-- **How far a run moves the step channel**: completely to the first `k` targets, `j` writes far
to the next, and then `i` writes of the ramp home from the `k`-th.  There are no other writes. -/
structure Traverses (n output : Nat) (initial : ℚ) (targets : List ℚ) (k j i : Nat)
    (t : History ℚ) : Prop where
  length_le : k ≤ targets.length
  next_exists : 0 < j → k < targets.length
  cut_le : j ≤ n + 1
  home_begun : 1 ≤ i
  home_le : i ≤ n + 1
  ramps_eq : ramps output initial t = rampsThrough n initial targets k j ++
    [rampUpTo n i (reached initial targets k) initial]
  writes_eq : History.writes output t = (ramps output initial t).flatMap Ramp.written

/-- **The step channel jumps just if the ramp home begins too far away.**  The ramp home begins at
the target that was last reached completely, so after a ramp that was broken off with its `j`-th
write it begins with a jump back over `j - 1` intervals.  The run has no jumps just if these are
no more than one interval of the ramp home.  A run that does not pass its check writes nothing. -/
theorem noJumps_autosweep_iff (e : Engine) (hn : 1 ≤ e.rampPoints) (plan : Plan ℚ)
    (hsteps : plan.steps = .stepping output targets) (s : Surroundings ℚ) :
    let t := s.history (Engine.autosweep e plan).run
    (∀ initial guard, Checked e plan (some initial) guard → guard <+: t →
      ∃ k j i, Traverses e.rampPoints output initial targets k j i t ∧
        (NoJumps e.rampPoints initial (ramps output initial t) ↔
          ((j - 1 : Nat) : ℚ) * |nextTarget initial targets k - reached initial targets k| ≤
            |initial - reached initial targets k|)) ∧
    ((∀ initial guard, Checked e plan (some initial) guard → ¬ guard <+: t) →
      History.writes output t = []) := by
  intro t
  have hruns := runs_autosweep (s.history_runs (Engine.autosweep e plan).run)
  have hchannel : plan.steps.stepChannel? = some output := by rw [hsteps]; rfl
  refine ⟨?_, hruns.writes_of_unchecked hchannel⟩
  intro initial guard hguard hbegins
  obtain ⟨held, body, cleanup, b, c, hbody, hcleanup, ht, -⟩ := hruns.of_checked hguard hbegins
  change t = _ at ht
  generalize (concluded plan.steps.pairCount b c).1 = final at ht
  obtain ⟨k, j, hmoves⟩ := moves_body hn hsteps hbody (hcleanup.announced [.published final])
  obtain rfl := hmoves.held_eq
  obtain ⟨i, hi, hin, hwritten, hhome⟩ := ramps_cleanup hn hchannel hcleanup final
  have hramps : ramps output initial t = rampsThrough e.rampPoints initial targets k j ++
      [rampUpTo e.rampPoints i (reached initial targets k) initial] := by
    rw [ht, (hguard.ramps_append output initial _).2, List.append_assoc, hmoves.ramps_eq, hhome]
  have hwrites : History.writes output t = (ramps output initial t).flatMap Ramp.written := by
    rw [hramps, List.flatMap_append, ← hmoves.writes_eq, List.flatMap_singleton, ← hwritten, ht,
      writes_append, (hguard.ramps_append output initial []).1, writes_append, writes_append]
    exact List.append_nil _
  refine ⟨k, j, i,
    ⟨hmoves.length_le, hmoves.next_exists, hmoves.cut_le, hi, hin, hramps, hwrites⟩, ?_⟩
  rw [hramps]
  exact noJumps_iff hn hmoves.cut_le hi initial targets

end Runs

section Glitch

/-- Whole numbers in decimal digits. -/
@[reducible] def wholeNumbers : Wording where
  turnSine _ _ := 0
  fixed _ x := Decimal.intText x.floor
  read? text := (Decimal.readSigned64? text).map fun n => (n : ℚ)

local instance : Wording := wholeNumbers

/-- Surroundings whose channels are at zero, and whose link fails once, on a write of one half. -/
def glitch : Surroundings ℚ where
  deliver
    | _, _, .instruct (.readChannel _) => .ok ⟨"read_channel;value|0;known|1"⟩
    | _, _, .instruct (.setDac _ value) =>
      if value = 1 / 2 then .error (.transport "glitch") else .ok ⟨"set_dac"⟩
    | _, _, _ => .ok {}
  interrupts _ _ _ := false
  fired _ _ := false
  sleep _ _ _ := .ok true

/-- One pair on channel 1, with channel 2 stepped to one. -/
def oneStep : Plan ℚ :=
  { channel := 1, firstLeg := .up, steps := .stepping 2 [1], filename := "f" }

/-- The history of that run: a ramp from zero to one in two intervals that fails at its middle, and
the ramp home. -/
def glitchHistory : History ℚ := glitch.history (Engine.autosweep { rampPoints := 2 } oneStep).run

theorem noJumps_autosweep_iff_glitch :
    ∃ k j i, Traverses 2 2 0 [1] k j i glitchHistory ∧
      (NoJumps 2 0 (ramps 2 0 glitchHistory) ↔
        ((j - 1 : Nat) : ℚ) * |nextTarget 0 [1] k - reached 0 [1] k| ≤ |0 - reached 0 [1] k|) := by
  have hreading : (({ text := "read_channel;value|0;known|1" } : Reply).channelReading :
      ChannelReading ℚ) = { value := 0, known := true } := by
    decide +kernel
  have hguard : Checked { rampPoints := 2 } oneStep (some 0)
      [.inspected .run false, .published .validateChannels,
        .ordered (.readChannel 1) (.ok ⟨"read_channel;value|0;known|1"⟩),
        .ordered (.readChannel 2) (.ok ⟨"read_channel;value|0;known|1"⟩)] := by
    have hknown := congrArg ChannelReading.known hreading
    have hzero : some (0 : ℚ) = some (Reply.channelReading
        { text := "read_channel;value|0;known|1" } : ChannelReading ℚ).value := by
      rw [hreading]
    rw [hzero]
    exact .stepped rfl hknown hknown
  exact (noJumps_autosweep_iff { rampPoints := 2 } (by decide) oneStep rfl glitch).1 0 _ hguard
    ⟨glitchHistory.drop 4, rfl⟩

/-- After one glitch the channel jumps from one half to zero, where a ramp home from one half was
due. -/
theorem jump_after_glitch :
    History.writes 2 glitchHistory = [0, 1 / 2, 0, 0, 0] ∧
      ¬ NoJumps 2 0 (ramps 2 0 glitchHistory) := by
  have hramps : ramps 2 0 glitchHistory = [⟨0, 1, [0, 1 / 2]⟩, ⟨0, 0, [0, 0, 0]⟩] := by
    decide +kernel
  refine ⟨by decide +kernel, ?_⟩
  rw [hramps]
  rintro ⟨-, -, hhome, -⟩
  have hjump : |(0 : ℚ) - 1 / 2| ≤ |(0 : ℚ) - 0| / (2 : Nat) := (List.isChain_cons_cons.mp hhome).1
  norm_num at hjump

end Glitch

end LabControl.Sweep
