/-
# When tokens fire

A token fires at some moment of a run, or never, and stays fired from then on.  A *timing* gives
the moments of all tokens, and the same surroundings may meet a program under any timing
(`Surroundings.timed`).

Two facts carry what is said about timings.  What a history shows of the tokens fits the timing
that it came about under (`fitsAll_run`).  And runs under two timings are the same, or they are the
same up to a look at a token on which the timings differ (`run_timed_eq_or_parts`).

It is no restriction that the moments are given beforehand.  Tokens may fire by what happened
before; as long as they stay fired, there is a timing under which the same happens
(`Surroundings.steady_iff_exists_timing`).
-/
import LabControl.Proofs.History

namespace LabControl

variable {ν α : Type}

/-! ## 1. Moments and timings -/

/-- A moment of a run, by the positions of its history. -/
inductive Moment where
  /-- Before the occurrence at a position begins, and after the one before it is over. -/
  | before (position : Nat)
  /-- While the occurrence at a position goes on: its request is sent, and nothing has come back
  for it. -/
  | during (position : Nat)
  deriving DecidableEq, Repr

/-- Whether a moment has come when the occurrence at a position begins. -/
def Moment.hasCome : Moment → Nat → Bool
  | before m, n => decide (m ≤ n)
  | during m, n => decide (m < n)

/-- Whether a moment comes before the occurrence at a position is over. -/
def Moment.comesWithin : Moment → Nat → Bool
  | before m, n | during m, n => decide (m ≤ n)

/-- When each token fires, if it does. -/
abbrev Timing : Type := Token → Option Moment

namespace Timing

/-- Whether a token has fired when the occurrence at a position begins. -/
def firedAt (τ : Timing) (token : Token) (n : Nat) : Bool := (τ token).any (·.hasCome n)

/-- Whether a token has fired before the occurrence at a position is over. -/
def firedWithin (τ : Timing) (token : Token) (n : Nat) : Bool := (τ token).any (·.comesWithin n)

/-- The timing with another moment for one token. -/
def set (τ : Timing) (token : Token) (moment : Option Moment) : Timing :=
  fun token' => if token' = token then moment else τ token'

/-- The timing under which a token never fires. -/
def without (τ : Timing) (token : Token) : Timing := τ.set token none

/-- Two timings differ at most on one token. -/
def AgreeBut (token : Token) (τ τ' : Timing) : Prop :=
  ∀ token', token' ≠ token → τ token' = τ' token'

/-- What a wait at a position is that its token cancels: it is not sent if the token has fired by
then, and given up if the token fires while it is pending. -/
def cancelled (τ : Timing) (n : Nat) (token : Token) (i : Instruction ν) : Occurrence ν :=
  if τ.firedAt token n then .skipped token i else .gaveUp token i

variable {τ τ' : Timing} {token token' : Token} {moment : Option Moment} {m n : Nat}

@[simp] theorem set_self : τ.set token moment token = moment := if_pos rfl

theorem set_of_ne (h : token' ≠ token) : τ.set token moment token' = τ token' := if_neg h

theorem agreeBut_without : AgreeBut token τ (τ.without token) := fun _ h => (set_of_ne h).symm

theorem cancels_cancelled (i : Instruction ν) : (τ.cancelled n token i).Cancels token i := by
  unfold cancelled
  split
  · exact .inr rfl
  · exact .inl rfl

/-- Where timings that agree but on one token differ, it is on this token. -/
theorem AgreeBut.eq_of_ne (h : AgreeBut token τ τ') (hdiffer : τ token' ≠ τ' token') :
    token' = token :=
  Decidable.byContradiction fun hne => hdiffer (h token' hne)

theorem firedWithin_of_firedAt (h : τ.firedAt token n = true) : τ.firedWithin token n = true := by
  unfold firedAt at h
  unfold firedWithin
  generalize τ token = moment at h ⊢
  rcases moment with _ | m | m
  · exact h
  · exact h
  · exact decide_eq_true (Nat.le_of_lt (of_decide_eq_true h))

/-- **A token that has fired stays fired.** -/
theorem firedAt_of_firedWithin (h : τ.firedWithin token m = true) (hmn : m < n) :
    τ.firedAt token n = true := by
  unfold firedWithin at h
  unfold firedAt
  generalize τ token = moment at h ⊢
  rcases moment with _ | k | k
  · exact h
  · exact decide_eq_true (Nat.le_trans (of_decide_eq_true h) (Nat.le_of_lt hmn))
  · exact decide_eq_true (Nat.lt_of_le_of_lt (of_decide_eq_true h) hmn)

theorem firedAt_mono (h : τ.firedAt token m = true) (hmn : m ≤ n) : τ.firedAt token n = true := by
  rcases Nat.lt_or_eq_of_le hmn with hlt | rfl
  · exact firedAt_of_firedWithin (firedWithin_of_firedAt h) hlt
  · exact h

@[simp] theorem firedAt_without_self : (τ.without token).firedAt token n = false := by
  simp [firedAt, without]

@[simp] theorem firedWithin_without_self : (τ.without token).firedWithin token n = false := by
  simp [firedWithin, without]

/-! ## 2. What a history shows -/

/-- What an occurrence at a position shows of a token fits the timing. -/
def Fits (τ : Timing) (n : Nat) : Occurrence ν → Prop
  | .awaited token _ _ => τ.firedWithin token n = false
  | .gaveUp token _ => τ.firedAt token n = false ∧ τ.firedWithin token n = true
  | .skipped token _ => τ.firedAt token n = true
  | .inspected token fired => τ.firedAt token n = fired
  | .exchanged .. | .slept .. | .published _ => True

/-- What a history shows from a position on fits the timing. -/
def FitsAll (τ : Timing) : Nat → History ν → Prop
  | _, [] => True
  | n, o :: t => τ.Fits n o ∧ FitsAll τ (n + 1) t

/-- Each occurrence of a history fits at its own position. -/
theorem FitsAll.fits {before after : History ν} {o : Occurrence ν}
    (h : τ.FitsAll n (before ++ o :: after)) : τ.Fits (n + before.length) o := by
  induction before generalizing n with
  | nil => exact h.1
  | cons o' before ih =>
    have hrest := ih h.2
    rwa [List.length_cons, Nat.add_comm before.length, ← Nat.add_assoc]

/-- What goes on after a history fits if its first occurrence does, and the others after that. -/
theorem fitsAll_cons {past t : History ν} {o : Occurrence ν} :
    τ.FitsAll past.length (o :: t) ↔
      τ.Fits past.length o ∧ τ.FitsAll (past ++ [o]).length t := by
  rw [List.length_append]
  exact Iff.rfl

end Timing

namespace Occurrence

/-- The occurrence is a wait for an instruction on a token, whatever became of it. -/
def Waits (o : Occurrence ν) (token : Token) (i : Instruction ν) : Prop :=
  (∃ d, o = .awaited token i d) ∨ o.Cancels token i

/-- The waiting instruction was sent. -/
def SendsWait (o : Occurrence ν) (token : Token) (i : Instruction ν) : Prop :=
  (∃ d, o = .awaited token i d) ∨ o = .gaveUp token i

variable {o : Occurrence ν} {τ : Timing} {token token' : Token} {i i' : Instruction ν} {n : Nat}

/-- A wait is for one instruction, on one token. -/
theorem Waits.unique (h : o.Waits token i) (h' : o.Waits token' i') : token = token' ∧ i = i' := by
  rcases h with ⟨d, rfl⟩ | rfl | rfl <;> rcases h' with ⟨d', h'⟩ | h' | h' <;> cases h'
  all_goals exact ⟨rfl, rfl⟩

/-- A wait that is cancelled shows that its token has fired. -/
theorem Cancels.firedWithin (h : o.Cancels token i) (hfits : τ.Fits n o) :
    τ.firedWithin token n = true := by
  rcases h with rfl | rfl
  · exact hfits.2
  · exact Timing.firedWithin_of_firedAt hfits

/-- A wait whose token has fired before it is over is cancelled. -/
theorem Waits.cancelled (h : o.Waits token i) (hfits : τ.Fits n o)
    (hfired : τ.firedWithin token n = true) : o = τ.cancelled n token i := by
  unfold Timing.cancelled
  rcases h with ⟨d, rfl⟩ | rfl | rfl
  · exact absurd hfired (Bool.eq_false_iff.mp hfits)
  · rw [if_neg (Bool.eq_false_iff.mp hfits.1)]
  · have hskipped : τ.firedAt token n = true := hfits
    rw [if_pos hskipped]

/-- A wait whose token has not fired before it is over is answered, or its link fails. -/
theorem Waits.answered (h : o.Waits token i) (hfits : τ.Fits n o)
    (hfired : τ.firedWithin token n = false) : ∃ d, o = .awaited token i d := by
  rcases h with hawaited | hcancels
  · exact hawaited
  · exact absurd (hcancels.firedWithin hfits) (Bool.eq_false_iff.mp hfired)

/-- No wait is sent once its token has fired. -/
theorem SendsWait.firedAt (h : o.SendsWait token i) (hfits : τ.Fits n o) :
    τ.firedAt token n = false := by
  rcases h with ⟨d, rfl⟩ | rfl
  · exact Bool.eq_false_iff.mpr fun hfired =>
      absurd (Timing.firedWithin_of_firedAt hfired) (Bool.eq_false_iff.mp hfits)
  · exact hfits.1

end Occurrence

/-! ## 3. Histories that part -/

namespace Timing

variable {τ τ' : Timing}

/-- **Two histories part at a look at a token** on which the timings differ: the look finds the
token fired in one of them only, or it is a wait, which is cancelled in one of them at least. -/
inductive Parts (τ τ' : Timing) : History ν → History ν → Prop where
  | inspecting {before : History ν} {token : Token} {b b' : Bool} {t t' : History ν}
      (hdiffer : τ token ≠ τ' token) (h : b ≠ b') :
    Parts τ τ' (before ++ .inspected token b :: t) (before ++ .inspected token b' :: t')
  | waiting {before : History ν} {token : Token} {i : Instruction ν} {o o' : Occurrence ν}
      {t t' : History ν} (hdiffer : τ token ≠ τ' token) (ho : o.Waits token i)
      (ho' : o'.Waits token i) (h : o.Cancels token i ∨ o'.Cancels token i) :
    Parts τ τ' (before ++ o :: t) (before ++ o' :: t')

theorem Parts.cons {t t' : History ν} (h : Parts τ τ' t t') (o : Occurrence ν) :
    Parts τ τ' (o :: t) (o :: t') := by
  cases h with
  | @inspecting before token b b' u u' hdiffer h =>
    exact @inspecting ν τ τ' (o :: before) token b b' u u' hdiffer h
  | @waiting before token i w w' u u' hdiffer hw hw' h =>
    exact @waiting ν τ τ' (o :: before) token i w w' u u' hdiffer hw hw' h

/-- Runs that go on alike after a common occurrence, or part there, do so from before it. -/
theorem eq_or_parts_cons {x y : History ν × α}
    (h : x = y ∨ τ.Parts τ' x.1 y.1) (o : Occurrence ν) :
    (o :: x.1, x.2) = (o :: y.1, y.2) ∨ τ.Parts τ' (o :: x.1) (o :: y.1) := by
  rcases h with rfl | h
  · exact .inl rfl
  · exact .inr (h.cons o)

end Timing

/-! ## 4. Where tokens stay fired -/

namespace Occurrence

/-- The token had fired by the end of the occurrence, as one sees from it. -/
def ShowsFired (o : Occurrence ν) (token : Token) : Prop :=
  (∃ i, o.Cancels token i) ∨ o = .inspected token true

/-- The token had not fired when the occurrence began, as one sees from it. -/
def ShowsUnfired (o : Occurrence ν) (token : Token) : Prop :=
  (∃ i, o.SendsWait token i) ∨ o = .inspected token false

variable {o : Occurrence ν} {τ : Timing} {token : Token} {n : Nat}

theorem ShowsFired.firedWithin (h : o.ShowsFired token) (hfits : τ.Fits n o) :
    τ.firedWithin token n = true := by
  rcases h with ⟨i, hcancels⟩ | rfl
  · exact hcancels.firedWithin hfits
  · exact Timing.firedWithin_of_firedAt hfits

theorem ShowsUnfired.firedAt (h : o.ShowsUnfired token) (hfits : τ.Fits n o) :
    τ.firedAt token n = false := by
  rcases h with ⟨i, hsends⟩ | rfl
  · exact hsends.firedAt hfits
  · exact hfits

end Occurrence

/-- **Tokens stay fired** in a history: after an occurrence that shows a token fired there is none
that shows it unfired. -/
def History.Steady (t : History ν) : Prop :=
  t.Pairwise fun o o' => ∀ token, o.ShowsFired token → ¬ o'.ShowsUnfired token

namespace Timing

variable {τ τ' : Timing} {n : Nat}

/-- The timing that a history shows from a position on: a token fires where it is first seen
fired. -/
def shownBy : Nat → History ν → Timing
  | _, [] => fun _ => none
  | n, .gaveUp token _ :: t => (shownBy (n + 1) t).set token (some (.during n))
  | n, .skipped token _ :: t | n, .inspected token true :: t =>
    (shownBy (n + 1) t).set token (some (.before n))
  | n, _ :: t => shownBy (n + 1) t

/-- No token has fired before the position that a history begins at. -/
theorem firedWithin_shownBy (t : History ν) {k : Nat} (hk : k < n) (token : Token) :
    (shownBy n t).firedWithin token k = false := by
  induction t generalizing n with
  | nil => rfl
  | cons o t ih =>
    have hlater := ih (Nat.lt_succ_of_lt hk)
    -- of the moments that an occurrence at the position shows, none has come yet
    have hset (token' : Token) {moment : Moment} (hmoment : moment.comesWithin k = false) :
        ((shownBy (n + 1) t).set token' (some moment)).firedWithin token k = false := by
      by_cases heq : token = token'
      · subst heq
        simpa [firedWithin] using hmoment
      · simpa [firedWithin, set_of_ne heq] using hlater
    have hnot : decide (n ≤ k) = false := decide_eq_false (Nat.not_le.mpr hk)
    cases o with
    | gaveUp token' i => exact hset token' hnot
    | skipped token' i => exact hset token' hnot
    | inspected token' fired =>
      cases fired with
      | true => exact hset token' hnot
      | false => exact hlater
    | exchanged link request d => exact hlater
    | awaited token' i d => exact hlater
    | slept link seconds r => exact hlater
    | published state => exact hlater

/-- A token that has fired before a history begins is not seen unfired in it. -/
theorem FitsAll.not_showsUnfired {t : History ν} {token : Token} (h : τ.FitsAll n t)
    (hfired : τ.firedAt token n = true) : ∀ o ∈ t, ¬ o.ShowsUnfired token := by
  induction t generalizing n with
  | nil => simp
  | cons o t ih =>
    intro o' hmem hshown
    rcases List.mem_cons.mp hmem with rfl | hmem
    · rw [hshown.firedAt h.1] at hfired
      cases hfired
    · exact ih h.2 (firedAt_mono hfired (Nat.le_succ n)) o' hmem hshown

/-- Under a timing tokens stay fired. -/
theorem FitsAll.steady {t : History ν} (h : τ.FitsAll n t) : t.Steady := by
  induction t generalizing n with
  | nil => exact List.Pairwise.nil
  | cons o t ih =>
    refine List.pairwise_cons.mpr ⟨fun o' hmem token hshown => ?_, ih h.2⟩
    have hfired := firedAt_of_firedWithin (hshown.firedWithin h.1) (Nat.lt_succ_self n)
    exact FitsAll.not_showsUnfired h.2 hfired o' hmem

/-- What a history shows fits another timing too, if that differs only on tokens that have fired
by then and are not seen unfired. -/
theorem FitsAll.of_fired {t : History ν} (h : τ.FitsAll n t)
    (hτ : ∀ token, τ' token = τ token ∨
      τ'.firedAt token n = true ∧ ∀ o ∈ t, ¬ o.ShowsUnfired token) : τ'.FitsAll n t := by
  induction t generalizing n with
  | nil => trivial
  | cons o t ih =>
    refine ⟨?_, ih h.2 fun token => (hτ token).imp_right fun ⟨hfired, hunseen⟩ =>
      ⟨firedAt_mono hfired (Nat.le_succ n), fun o' hmem => hunseen o' (.tail _ hmem)⟩⟩
    have ho : τ.Fits n o := h.1
    cases o with
    | awaited token i d =>
      rcases hτ token with heq | ⟨-, hunseen⟩
      · simpa [Fits, firedWithin, heq] using ho
      · exact absurd (.inl ⟨i, .inl ⟨d, rfl⟩⟩) (hunseen _ List.mem_cons_self)
    | gaveUp token i =>
      rcases hτ token with heq | ⟨-, hunseen⟩
      · simpa [Fits, firedWithin, firedAt, heq] using ho
      · exact absurd (.inl ⟨i, .inr rfl⟩) (hunseen _ List.mem_cons_self)
    | skipped token i =>
      rcases hτ token with heq | ⟨hfired, -⟩
      · simpa [Fits, firedAt, heq] using ho
      · exact hfired
    | inspected token fired =>
      rcases hτ token with heq | ⟨hfired, hunseen⟩
      · simpa [Fits, firedAt, heq] using ho
      · cases fired with
        | true => exact hfired
        | false => exact absurd (.inr rfl) (hunseen _ List.mem_cons_self)
    | exchanged link request d => trivial
    | slept link seconds r => trivial
    | published state => trivial

/-- **A history where tokens stay fired fits the timing that it shows.** -/
theorem fitsAll_shownBy {t : History ν} (h : t.Steady) : (shownBy n t).FitsAll n t := by
  induction t generalizing n with
  | nil => trivial
  | cons o t ih =>
    obtain ⟨hlater, hsteady⟩ := List.pairwise_cons.mp h
    have htail := ih hsteady (n := n + 1)
    -- the token that the occurrence shows fired is not seen unfired afterwards
    have hset {token : Token} {moment : Moment} (hshown : o.ShowsFired token)
        (hmoment : moment.hasCome (n + 1) = true) :
        ((shownBy (n + 1) t).set token (some moment)).FitsAll (n + 1) t := by
      refine htail.of_fired fun token' => ?_
      by_cases heq : token' = token
      · subst heq
        exact .inr ⟨by simpa [firedAt] using hmoment, fun o' hmem => hlater o' hmem _ hshown⟩
      · exact .inl (set_of_ne heq)
    have hunfired (token : Token) : (shownBy (n + 1) t).firedWithin token n = false :=
      firedWithin_shownBy t (Nat.lt_succ_self n) token
    cases o with
    | gaveUp token i =>
      refine ⟨?_, hset (.inl ⟨i, .inl rfl⟩) (decide_eq_true (Nat.lt_succ_self n))⟩
      constructor <;> simp [shownBy, firedAt, firedWithin, Moment.hasCome, Moment.comesWithin]
    | skipped token i =>
      refine ⟨?_, hset (.inl ⟨i, .inr rfl⟩) (decide_eq_true (Nat.le_succ n))⟩
      simp [Fits, shownBy, firedAt, Moment.hasCome]
    | inspected token fired =>
      cases fired with
      | true =>
        refine ⟨?_, hset (.inr rfl) (decide_eq_true (Nat.le_succ n))⟩
        simp [Fits, shownBy, firedAt, Moment.hasCome]
      | false =>
        refine ⟨Bool.eq_false_iff.mpr fun hfired => ?_, htail⟩
        exact absurd (firedWithin_of_firedAt hfired) (Bool.eq_false_iff.mp (hunfired token))
    | awaited token i d => exact ⟨hunfired token, htail⟩
    | exchanged link request d => exact ⟨trivial, htail⟩
    | slept link seconds r => exact ⟨trivial, htail⟩
    | published state => exact ⟨trivial, htail⟩

end Timing

/-! ## 5. Runs under a timing -/

variable [Quantity ν]

namespace Surroundings

/-- The same surroundings, with tokens that fire as the timing says. -/
def timed (s : Surroundings ν) (τ : Timing) : Surroundings ν :=
  { s with
    interrupts := fun past token _ => τ.firedWithin token past.length
    fired := fun past token => τ.firedAt token past.length }

variable (s : Surroundings ν) (τ τ' : Timing)

/-- What becomes of a wait fits the timing. -/
theorem fits_await (past : History ν) (token : Token) (i : Instruction ν) :
    τ.Fits past.length ((s.timed τ).await past token i).1 := by
  unfold await
  split
  · next hfired => exact hfired
  · next hunfired =>
    split
    · next hinterrupts => exact ⟨Bool.eq_false_iff.mpr hunfired, hinterrupts⟩
    · next hinterrupts => exact Bool.eq_false_iff.mpr hinterrupts

/-- **What a run shows of the tokens fits its timing.** -/
theorem fitsAll_run (p : Program ν α) (past : History ν) :
    τ.FitsAll past.length ((s.timed τ).run p past).1 := by
  induction p generalizing past with
  | done a => trivial
  | exchange link request next ih => exact Timing.fitsAll_cons.mpr ⟨trivial, ih _ _⟩
  | await token i next ih => exact Timing.fitsAll_cons.mpr ⟨fits_await s τ past token i, ih _ _⟩
  | sleep link seconds next ih => exact Timing.fitsAll_cons.mpr ⟨trivial, ih _ _⟩
  | publish state next ih => exact Timing.fitsAll_cons.mpr ⟨trivial, ih _⟩
  | inspect token next ih => exact Timing.fitsAll_cons.mpr ⟨rfl, ih _ _⟩

/-- What an occurrence of a run shows of a token fits the timing at its position. -/
theorem fits_history {p : Program ν α} {before after : History ν} {o : Occurrence ν}
    (h : (s.timed τ).history p = before ++ o :: after) : τ.Fits before.length o := by
  have hall : τ.FitsAll 0 ((s.timed τ).history p) := fitsAll_run s τ p []
  rw [h] at hall
  simpa using hall.fits

/-- The wait of a run is a wait, whatever becomes of it. -/
theorem waits_await (past : History ν) (token : Token) (i : Instruction ν) :
    (s.await past token i).1.Waits token i := by
  unfold await
  split
  · exact .inr (.inr rfl)
  · split
    · exact .inr (.inl rfl)
    · exact .inl ⟨_, rfl⟩

/-- A wait that is not cancelled is told what the link delivers. -/
theorem await_eq_of_not_cancels {past : History ν} {token : Token} {i : Instruction ν}
    (h : ¬ (s.await past token i).1.Cancels token i) :
    s.await past token i =
      (.awaited token i (s.deliver past .remote (.instruct i)),
        told (s.deliver past .remote (.instruct i))) := by
  unfold await at h ⊢
  split
  · next hfired =>
    rw [if_pos hfired] at h
    exact absurd (.inr rfl) h
  · next hfired =>
    rw [if_neg hfired] at h
    split
    · next hinterrupts =>
      rw [if_pos hinterrupts] at h
      exact absurd (.inl rfl) h
    · rfl

/-! ## 6. Two timings -/

/-- **The same surroundings under two timings** let the same happen, or the same up to a look at a
token on which the timings differ. -/
theorem run_timed_eq_or_parts (p : Program ν α) (past : History ν) :
    (s.timed τ).run p past = (s.timed τ').run p past ∨
      τ.Parts τ' ((s.timed τ).run p past).1 ((s.timed τ').run p past).1 := by
  induction p generalizing past with
  | done a => exact .inl rfl
  | exchange link request next ih => exact Timing.eq_or_parts_cons (ih _ _) _
  | sleep link seconds next ih => exact Timing.eq_or_parts_cons (ih _ _) _
  | publish state next ih => exact Timing.eq_or_parts_cons (ih _) _
  | inspect token next ih =>
    by_cases hb : τ.firedAt token past.length = τ'.firedAt token past.length
    · have hrest := Timing.eq_or_parts_cons (ih (τ.firedAt token past.length)
        (past ++ [.inspected token (τ.firedAt token past.length)]))
        (.inspected token (τ.firedAt token past.length))
      simp only [run, timed, ← hb] at hrest ⊢
      exact hrest
    · have hdiffer : τ token ≠ τ' token := fun h => hb (by simp only [Timing.firedAt, h])
      exact .inr (@Timing.Parts.inspecting ν τ τ' [] token _ _ _ _ hdiffer hb)
  | await token i next ih =>
    by_cases hsame : (s.timed τ).await past token i = (s.timed τ').await past token i
    · have hrest := Timing.eq_or_parts_cons (ih ((s.timed τ).await past token i).2
        (past ++ [((s.timed τ).await past token i).1])) ((s.timed τ).await past token i).1
      simp only [run, ← hsame] at hrest ⊢
      exact hrest
    · have hdiffer : τ token ≠ τ' token := by
        intro h
        refine hsame ?_
        simp only [await, timed, Timing.firedAt, Timing.firedWithin, h]
        rfl
      have hcancels : ((s.timed τ).await past token i).1.Cancels token i ∨
          ((s.timed τ').await past token i).1.Cancels token i := by
        refine Classical.byContradiction fun hnone => ?_
        obtain ⟨h, h'⟩ := not_or.mp hnone
        exact hsame ((await_eq_of_not_cancels _ h).trans (await_eq_of_not_cancels _ h').symm)
      exact .inr (@Timing.Parts.waiting ν τ τ' [] token i _ _ _ _ hdiffer
        (waits_await _ past token i) (waits_await _ past token i) hcancels)

/-! ## 7. Timings and surroundings -/

/-- A wait goes alike under a timing that it fits. -/
theorem await_timed_of_fits {past : History ν} {token : Token} {i : Instruction ν}
    (h : τ.Fits past.length (s.await past token i).1) :
    (s.timed τ).await past token i = s.await past token i := by
  unfold await at h ⊢
  cases hfired : s.fired past token with
  | true =>
    have hfired' : τ.firedAt token past.length = true := by simpa [hfired, Timing.Fits] using h
    simp [timed, hfired']
  | false =>
    cases hinterrupts : s.interrupts past token i with
    | true =>
      have hduring : τ.firedAt token past.length = false ∧
          τ.firedWithin token past.length = true := by
        simpa [hfired, hinterrupts, Timing.Fits] using h
      simp [timed, hduring.1, hduring.2]
    | false =>
      have hwithin : τ.firedWithin token past.length = false := by
        simpa [hfired, hinterrupts, Timing.Fits] using h
      have hfired' : τ.firedAt token past.length = false := Bool.eq_false_iff.mpr fun hfired =>
        absurd (Timing.firedWithin_of_firedAt hfired) (Bool.eq_false_iff.mp hwithin)
      simp [timed, hwithin, hfired']

/-- A program runs alike under a timing that its history fits. -/
theorem run_timed_of_fits (p : Program ν α) (past : History ν)
    (h : τ.FitsAll past.length (s.run p past).1) : (s.timed τ).run p past = s.run p past := by
  have hcons {x y : History ν × α} (o : Occurrence ν) (hxy : x = y) :
      (o :: x.1, x.2) = (o :: y.1, y.2) := by rw [hxy]
  induction p generalizing past with
  | done a => rfl
  | exchange link request next ih => exact hcons _ (ih _ _ (Timing.fitsAll_cons.mp h).2)
  | sleep link seconds next ih => exact hcons _ (ih _ _ (Timing.fitsAll_cons.mp h).2)
  | publish state next ih => exact hcons _ (ih _ (Timing.fitsAll_cons.mp h).2)
  | await token i next ih =>
    simp only [run] at h ⊢
    obtain ⟨hwait, hfits⟩ := Timing.fitsAll_cons.mp h
    rw [await_timed_of_fits s τ hwait]
    exact hcons _ (ih _ _ hfits)
  | inspect token next ih =>
    obtain ⟨hfired, hfits⟩ := Timing.fitsAll_cons.mp h
    have hsame : (s.timed τ).fired past token = s.fired past token := hfired
    simp only [run, hsame]
    exact hcons _ (ih _ _ hfits)

/-- **Surroundings where tokens stay fired** are those that do what they do under some timing. -/
theorem steady_iff_exists_timing (p : Program ν α) :
    (s.history p).Steady ↔
      ∃ τ, (s.timed τ).history p = s.history p ∧ (s.timed τ).result p = s.result p := by
  constructor
  · intro h
    have hrun := run_timed_of_fits s (.shownBy 0 (s.history p)) p [] (Timing.fitsAll_shownBy h)
    exact ⟨.shownBy 0 (s.history p), congrArg Prod.fst hrun, congrArg Prod.snd hrun⟩
  · rintro ⟨τ, hhistory, -⟩
    have hfits : τ.FitsAll 0 ((s.timed τ).history p) := fitsAll_run s τ p []
    exact hhistory ▸ hfits.steady

end Surroundings

end LabControl
