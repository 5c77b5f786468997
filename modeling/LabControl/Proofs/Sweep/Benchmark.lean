/-
# What a benchmark measures

A benchmark reads the clock of the backend, reads its channel, writes one sine period around that
reading, and reads the clock again.  `Benchmarks` are its histories when nothing fails.

A period of `n` parts takes `n + 1` writes, since both of its ends are written, and the benchmark
divides the time that went by between the two readings of the clock by the number of parts.  So it
yields the time for each *part*.  The theorem says what was sent and what is yielded, and exactly
when that is also the time for each *write*.
-/
import LabControl.Sweep.Routines
import LabControl.Proofs.Sweep.Continuity
import LabControl.Proofs.Sweep.Waits
import Mathlib.Tactic.NormNum

namespace LabControl

variable {ν : Type} [Quantity ν]

/-! ## 1. The clock -/

/-- The number that a reply tells as the time, if it is no rejection and tells one. -/
def Reply.timeTold? (r : Reply) : Option ν :=
  if r.answers "get_time" then r.quantity? 0 else none

/-- The time that a client takes from a reply is the one that it tells. -/
theorem Reply.time_eq_of_timeTold? {r : Reply} {x : ν} (h : r.timeTold? = some x) :
    r.time = x := by
  unfold timeTold? at h
  split at h
  · next hname => rw [time, if_pos hname, h, Option.getD_some]
  · cases h

/-- What a reading of the clock told, if something came back for it. -/
def Occurrence.clock? : Occurrence ν → Option (Option ν)
  | exchanged _ (.instruct .getTime) (.ok reply) => some reply.timeTold?
  | _ => none

/-- What the readings of the clock told, in order. -/
def History.clock (t : History ν) : List (Option ν) := t.filterMap Occurrence.clock?

@[simp] theorem History.clock_nil : History.clock ([] : History ν) = [] := rfl

@[simp] theorem History.clock_append (t u : History ν) :
    History.clock (t ++ u) = t.clock ++ u.clock := List.filterMap_append

theorem History.clock_cons (o : Occurrence ν) (t : History ν) :
    History.clock (o :: t) = o.clock?.toList ++ t.clock := by
  cases h : o.clock? <;> simp [History.clock, h]

namespace Sweep

open LabControl.Action (Runs)

/-- Writes do not read the clock. -/
theorem clock_eq_nil_of_follows {token : Token} {channel output : Nat} {values : List ν}
    {held held' : Option ν} {t : History ν} {r : Except ControlError Unit}
    (h : Follows token channel (orders (values.map (.setDac output))) held t held' r) :
    History.clock t = [] := by
  refine List.filterMap_eq_nil_iff.mpr fun o ho => ?_
  obtain ⟨i, hi, d, rfl⟩ := h.exists_of_mem ho
  obtain ⟨value, -, rfl⟩ := List.mem_map.mp hi
  rfl

/-! ## 2. The histories of a benchmark -/

/-- One sine period around a centre in `n` equal parts, from its start to its end. -/
def periodValues (center : ν) (n : Nat) : List ν :=
  (List.range (n + 1)).map fun part => center + turnSine part (max n 1)

theorem periodValues_eq (center : ν) (n : Nat) :
    periodValues center n = Engine.sineWave center n := rfl

/-- The writes of a benchmark: one sine period around a centre. -/
def benchmarkWrites (channel n : Nat) (center : ν) : List (Instruction ν) :=
  (periodValues center n).map (.setDac channel)

/-- **What a benchmark sends**, for the value that its channel is read to have. -/
def benchmarkOrders (channel n : Nat) (center : ν) : List (Instruction ν) :=
  .getTime :: .readChannel channel :: (benchmarkWrites channel n center ++ [.getTime])

/-- Both ends of the period are written. -/
theorem length_periodValues (center : ν) (n : Nat) : (periodValues center n).length = n + 1 := by
  rw [periodValues, List.length_map, List.length_range]

/-- **What a benchmark meets when nothing fails**, and what it yields. -/
inductive Benchmarks (channel n : Nat) : History ν → Except ControlError ν → Prop where
  | intro (before reading after : Reply) {token : Token} {held held' : Option ν}
      {writes : History ν} (hsmooth : writes.Smooth)
      (hwrites : Follows token channel
        (orders (benchmarkWrites channel n reading.channelReading.value)) held writes held'
        (.ok ())) :
    Benchmarks channel n
      (.ordered .getTime (.ok before) :: .ordered (.readChannel channel) (.ok reading) ::
        (writes ++ [.ordered .getTime (.ok after)]))
      (.ok ((after.time - before.time) / Scale.count (max n 1)))

/-- A query on which nothing fails is answered, and what follows goes by the reply. -/
theorem runs_query_then {α β : Type} {i : Instruction ν} {f : Reply → α} {g : α → Action ν β}
    {t : History ν} {r : Except ControlError β}
    (h : Runs ((do let reply ← Client.ask .remote i; pure (f reply)) >>= g) t r)
    (ht : t.Smooth) :
    ∃ (reply : Reply) (u : History ν), t = .ordered i (.ok reply) :: u ∧ u.Smooth ∧
      Runs (g (f reply)) u r := by
  rcases Action.runs_bind.mp h with ⟨error, hq, -⟩ | ⟨a, t₁, u, hq, hg, rfl⟩
  · obtain ⟨fault | reply, rfl, hr⟩ := Client.runs_ask_map.mp hq
    · have hnone := (ht _ List.mem_cons_self).fault?_eq_none
      cases hnone
    · cases hr
  · obtain ⟨fault | reply, rfl, hr⟩ := Client.runs_ask_map.mp hq
    · cases hr
    · cases hr
      exact ⟨reply, u, rfl, ((History.smooth_cons _ _).mp ht).2, hg⟩

/-- The value of a channel is taken from the reply to one query. -/
theorem channelValue_eq (channel : Nat) :
    (Client.channelValue channel : Action ν ν) = (do
      let reply ← Client.ask .remote (.readChannel channel)
      pure reply.channelReading.value) := by
  simp [Client.channelValue, Client.readChannel]

/-- **A benchmark on which nothing fails meets nothing else.** -/
theorem benchmarks_of_smooth {channel n : Nat} {t : History ν} {r : Except ControlError ν}
    (h : Runs (Engine.benchmark channel n) t r) (ht : t.Smooth) : Benchmarks channel n t r := by
  obtain ⟨before, t₁, rfl, ht₁, h₁⟩ := runs_query_then h ht
  rw [channelValue_eq] at h₁
  obtain ⟨reading, t₂, rfl, ht₂, h₂⟩ := runs_query_then h₁ ht₁
  have hperforms (center : ν) : Performs .run channel
      (Engine.writeAll channel (Engine.sineWave center n))
      (orders (benchmarkWrites channel n center)) := by
    rw [benchmarkWrites, periodValues_eq]
    exact performs_writeAll channel _
  rcases Action.runs_bind.mp h₂ with ⟨error, hw, rfl⟩ | ⟨⟨⟩, writes, t₃, hw, h₃, rfl⟩
  · -- where nothing fails, the writes do not break off
    obtain ⟨hok, -⟩ := (hperforms _ _ _ hw none).cut.of_smooth ht₂
    cases hok
  · obtain ⟨hsmooth, ht₃⟩ := (History.smooth_append _ _).mp ht₂
    obtain ⟨after, t₄, rfl, -, h₄⟩ := runs_query_then h₃ ht₃
    obtain ⟨rfl, rfl⟩ := Action.runs_pure.mp h₄
    exact .intro before reading after hsmooth (hperforms _ _ _ hw none)

section Benchmarks

variable {channel n : Nat} {t : History ν} {r : Except ControlError ν}

/-- A benchmark sends its orders, for the value that its channel is read to have. -/
theorem Benchmarks.sent_eq (h : Benchmarks channel n t r) :
    ∃ reading : Reply, .ordered (.readChannel channel) (.ok reading) ∈ t ∧
      t.sent = remotely (benchmarkOrders channel n reading.channelReading.value) := by
  obtain ⟨before, reading, after, hsmooth, hwrites⟩ := h
  obtain ⟨-, -, hsent⟩ := hwrites.cut.of_smooth hsmooth
  rw [Script.commands_orders] at hsent
  refine ⟨reading, by simp, ?_⟩
  simp [History.sent_cons, Occurrence.sent?, hsent, Planned.fixed, benchmarkOrders]

/-- **One write more than the period has parts.** -/
theorem Benchmarks.length_writes (h : Benchmarks channel n t r) :
    (History.writes channel t).length = n + 1 := by
  obtain ⟨before, reading, after, -, hwrites⟩ := h
  obtain ⟨m, -, htake, hall, -⟩ := follows_writes hwrites
  rw [hall rfl, List.take_length] at htake
  simp [writes_cons, Occurrence.sent?, written?, htake, length_periodValues]

/-- The clock is read twice, and the result is made of the two replies. -/
theorem Benchmarks.clock_eq (h : Benchmarks channel n t r) :
    ∃ before after : Reply, t.clock = [before.timeTold?, after.timeTold?] ∧
      r = .ok ((after.time - before.time) / Scale.count (max n 1)) := by
  obtain ⟨before, reading, after, -, hwrites⟩ := h
  refine ⟨before, after, ?_, rfl⟩
  simp [History.clock_cons, clock_eq_nil_of_follows hwrites, Occurrence.clock?]

/-- **The time for each part** is yielded, where the clock tells numbers. -/
theorem Benchmarks.result_eq (h : Benchmarks channel n t r) {first last : ν}
    (hclock : t.clock = [some first, some last]) :
    r = .ok ((last - first) / Scale.count (max n 1)) := by
  obtain ⟨before, after, htold, hr⟩ := h.clock_eq
  obtain ⟨hfirst, hlast⟩ : before.timeTold? = some first ∧ after.timeTold? = some last := by
    simpa [htold] using hclock
  rw [hr, Reply.time_eq_of_timeTold? hfirst, Reply.time_eq_of_timeTold? hlast]

end Benchmarks

/-! ## 3. Time for each part, and time for each write -/

section Runs

variable [Wording]

/-- **A benchmark yields the time for each part of its period.**  It reads the clock, reads its
channel, makes one write more than the period has parts, and reads the clock again.  What it yields
is the time for each write only if there is just one, or if no time went by. -/
theorem perWrite_benchmark_iff (channel n : Nat) (s : Surroundings ℚ) {first last : ℚ}
    (hsmooth : (s.history (Engine.benchmark channel n).run).Smooth)
    (hclock : (s.history (Engine.benchmark channel n).run).clock = [some first, some last]) :
    let t := s.history (Engine.benchmark channel n).run
    let r := s.result (Engine.benchmark channel n).run
    (∃ reading : Reply, .ordered (.readChannel channel) (.ok reading) ∈ t ∧
      t.sent = remotely (benchmarkOrders channel n reading.channelReading.value)) ∧
    (History.writes channel t).length = n + 1 ∧
    r = .ok ((last - first) / (max n 1 : Nat)) ∧
    (r = .ok ((last - first) / (History.writes channel t).length) ↔ n = 0 ∨ first = last) := by
  intro t r
  have hruns := benchmarks_of_smooth (s.history_runs (Engine.benchmark channel n).run) hsmooth
  have hresult : r = .ok ((last - first) / (max n 1 : Nat)) := hruns.result_eq hclock
  refine ⟨hruns.sent_eq, hruns.length_writes, hresult, ?_⟩
  rw [hresult, hruns.length_writes, Except.ok.injEq]
  constructor
  · intro heq
    by_contra hne
    obtain ⟨hn, htime⟩ := not_or.mp hne
    have hpos : 1 ≤ n := Nat.one_le_iff_ne_zero.mpr hn
    have hdiff : last - first ≠ 0 := sub_ne_zero.mpr (Ne.symm htime)
    rw [Nat.max_eq_left hpos, div_eq_mul_inv, div_eq_mul_inv, mul_right_inj' hdiff, inv_inj] at heq
    have : n = n + 1 := by exact_mod_cast heq
    omega
  · rintro (rfl | rfl)
    · norm_num
    · rw [sub_self, zero_div, zero_div]

end Runs

section Ticking

local instance : Wording := wholeNumbers

/-- Surroundings whose clock shows zero at first, and four when anything has happened. -/
def ticking : Surroundings ℚ := .answering fun past _ request =>
  match request with
  | .instruct .getTime => if past.isEmpty then ⟨"get_time;t|0"⟩ else ⟨"get_time;t|4"⟩
  | _ => {}

/-- A period of one part on channel 1. -/
def onePart : Action ℚ ℚ := Engine.benchmark 1 1

theorem clock_onePart : (ticking.history onePart.run).clock = [some 0, some 4] := by
  decide +kernel

theorem perWrite_benchmark_iff_ticking :
    (History.writes 1 (ticking.history onePart.run)).length = 2 ∧
      ticking.result onePart.run = .ok 4 := by
  have hsmooth : (ticking.history onePart.run).Smooth :=
    Surroundings.smooth_answering _ onePart.run []
  obtain ⟨-, hlength, hresult, -⟩ := perWrite_benchmark_iff 1 1 ticking hsmooth clock_onePart
  refine ⟨hlength, hresult.trans ?_⟩
  norm_num

/-- **Two writes in four seconds are reported to take four seconds each.** -/
theorem reports_time_per_part :
    (ticking.history onePart.run).Smooth ∧
      (ticking.history onePart.run).clock = [some 0, some 4] ∧
      ticking.result onePart.run = .ok 4 ∧
      ticking.result onePart.run ≠
        .ok ((4 - 0) / (History.writes 1 (ticking.history onePart.run)).length) := by
  have hresult : ticking.result onePart.run = .ok 4 := by decide +kernel
  have hlength : (History.writes 1 (ticking.history onePart.run)).length = 2 := by decide +kernel
  refine ⟨Surroundings.smooth_answering _ onePart.run [], clock_onePart, hresult, ?_⟩
  rw [hresult, hlength]
  norm_num

end Ticking

end Sweep

end LabControl
