/-
# The log of the requests

The log of the tasks on a connection says what became of their requests.  It only ever grows by
what may follow what has happened (`Event.Follows`): a request has a new number, one thing at most
comes back for it, and the result that a task goes on with follows both.  Of a log that has grown
so (`Sound`) it holds that a number stands for one request, that nothing ends a request twice, and
that a task goes on with the reply to its own request alone.
-/
import LabControl.Proofs.Channel.Tasks

namespace LabControl.Tasks

/-! ## 1. What may follow -/

/-- What may be made of what came back: a fault stays a fault, and a reply is that reply, unless
it cannot be echoed. -/
def Tells (came : Except ControlError String) (result : Except ControlError Reply) : Prop :=
  (∀ error, came = .error error → result = .error error) ∧
    ∀ reply, result = .ok reply → came = .ok reply.text

/-- What may happen to the requests after what has happened. -/
def Event.Follows (log : List Event) : Event → Prop
  | sent n .. => ∀ e ∈ log, e.number < n
  | answered n _ => ∀ e ∈ log, e.answerTo? n = none
  | received n task link text result =>
    (∀ e ∈ log, e.ends n = false) ∧ .sent n task link text ∈ log ∧
      ∃ came, .answered n came ∈ log ∧ Tells came result
  | givenUp n => ∀ e ∈ log, e.ends n = false

/-- Whether a request is handed over under a number. -/
def Event.sends (n : Nat) : Event → Bool
  | sent m .. => m == n
  | answered .. | received .. | givenUp _ => false

/-- **A sound log**: each event may follow those before it. -/
inductive Sound : List Event → Prop where
  | nil : Sound []
  | cons {e : Event} {log : List Event} : e.Follows log → Sound log → Sound (e :: log)

/-! ## 2. Sound logs -/

section Sound

variable {log : List Event} {n : Nat}

theorem Event.ends_eq_false_of_lt {e : Event} (h : e.number < n) : e.ends n = false := by
  cases e with
  | received m | givenUp m => simp [ends, Nat.ne_of_lt (show m < n from h)]
  | sent | answered => rfl

theorem Event.ends_received_iff {m task : Nat} {link : Link} {text : String}
    {result : Except ControlError Reply} :
    (received n task link text result).ends m = true ↔ m = n := by
  rw [ends, beq_iff_eq, eq_comm]

theorem Event.ends_givenUp_iff {m : Nat} : (givenUp n).ends m = true ↔ m = n := by
  rw [ends, beq_iff_eq, eq_comm]

/-- What happens at most once: events of a kind that follow only where none of the kind has
happened. -/
theorem Sound.filter_length_le_one (h : Sound log) {kind : Event → Bool}
    (hkind : ∀ (e : Event) log, e.Follows log → kind e = true → ∀ e' ∈ log, kind e' = false) :
    (log.filter kind).length ≤ 1 := by
  induction h with
  | nil => simp
  | @cons e log hfollows _ ih =>
    by_cases he : kind e = true
    · have hnone : log.filter kind = [] := by
        simpa [List.filter_eq_nil_iff] using hkind e log hfollows he
      simp [he, hnone]
    · simpa [he] using ih

theorem Sound.eq_of_mem (h : Sound log) {kind : Event → Bool}
    (hkind : ∀ (e : Event) log, e.Follows log → kind e = true → ∀ e' ∈ log, kind e' = false)
    {e e' : Event} (he : e ∈ log) (he' : e' ∈ log) (hk : kind e = true) (hk' : kind e' = true) :
    e = e' := by
  have hmem : e ∈ log.filter kind := List.mem_filter.mpr ⟨he, hk⟩
  have hmem' : e' ∈ log.filter kind := List.mem_filter.mpr ⟨he', hk'⟩
  have hlength := h.filter_length_le_one hkind
  generalize log.filter kind = found at hmem hmem' hlength
  rcases found with _ | ⟨first, _ | ⟨second, rest⟩⟩
  · cases hmem
  · rw [List.mem_singleton.mp hmem, List.mem_singleton.mp hmem']
  · simp at hlength

/-- A request is over when its task goes on or gives it up, which happens at most once. -/
theorem Event.ends_of_follows (n : Nat) (e : Event) (log : List Event) (h : e.Follows log)
    (he : e.ends n = true) : ∀ e' ∈ log, e'.ends n = false := by
  cases e with
  | received m =>
    obtain rfl : m = n := by simpa [ends] using he
    exact h.1
  | givenUp m =>
    obtain rfl : m = n := by simpa [ends] using he
    exact h
  | sent | answered => cases he

theorem Sound.sent_unique (h : Sound log) {task task' : Nat} {link link' : Link}
    {text text' : String} (hsent : .sent n task link text ∈ log)
    (hsent' : .sent n task' link' text' ∈ log) : task = task' ∧ link = link' ∧ text = text' := by
  have hkind : ∀ (e : Event) log, e.Follows log → e.sends n = true →
      ∀ e' ∈ log, e'.sends n = false := by
    intro e log hfollows he e' he'
    cases e with
    | sent m =>
      have hlt : e'.number < m := hfollows e' he'
      obtain rfl : m = n := by simpa [Event.sends] using he
      cases e' with
      | sent m' => simp [Event.sends, Nat.ne_of_lt (show m' < m from hlt)]
      | answered | received | givenUp => rfl
    | answered | received | givenUp => cases he
  cases h.eq_of_mem hkind hsent hsent' (by simp [Event.sends]) (by simp [Event.sends])
  exact ⟨rfl, rfl, rfl⟩

theorem Sound.answered_unique (h : Sound log) {came came' : Except ControlError String}
    (hcame : .answered n came ∈ log) (hcame' : .answered n came' ∈ log) : came = came' := by
  have hkind : ∀ (e : Event) log, e.Follows log → (e.answerTo? n).isSome = true →
      ∀ e' ∈ log, (e'.answerTo? n).isSome = false := by
    intro e log hfollows he e' he'
    cases e with
    | answered m =>
      by_cases hm : m = n
      · subst hm
        simpa using hfollows e' he'
      · simp [Event.answerTo?, hm] at he
    | sent | received | givenUp => cases he
  cases h.eq_of_mem hkind hcame hcame' (by simp [Event.answerTo?]) (by simp [Event.answerTo?])
  rfl

/-- A task goes on with what came back for the request that it sent itself. -/
theorem Sound.received_spec (h : Sound log) {task : Nat} {link : Link} {text : String}
    {result : Except ControlError Reply} (hreceived : .received n task link text result ∈ log) :
    .sent n task link text ∈ log ∧ ∃ came, .answered n came ∈ log ∧ Tells came result := by
  induction h with
  | nil => cases hreceived
  | cons hfollows _ ih =>
    rcases List.mem_cons.mp hreceived with rfl | hold
    · obtain ⟨-, hsent, came, hcame, htells⟩ := hfollows
      exact ⟨List.mem_cons_of_mem _ hsent, came, List.mem_cons_of_mem _ hcame, htells⟩
    · obtain ⟨hsent, came, hcame, htells⟩ := ih hold
      exact ⟨List.mem_cons_of_mem _ hsent, came, List.mem_cons_of_mem _ hcame, htells⟩

/-- A reply that a task goes on with is for the request of this task alone, and it is all that
came back for it. -/
theorem Sound.paired (h : Sound log) {task : Nat} {link : Link} {text : String} {reply : Reply}
    (hreceived : .received n task link text (.ok reply) ∈ log) :
    (∀ task' link' text', .sent n task' link' text' ∈ log ↔
      task' = task ∧ link' = link ∧ text' = text) ∧
    ∀ came, .answered n came ∈ log ↔ came = .ok reply.text := by
  obtain ⟨hsent, came, hcame, -, hok⟩ := h.received_spec hreceived
  obtain rfl := hok reply rfl
  refine ⟨fun task' link' text' => ⟨fun hsent' => h.sent_unique hsent' hsent, ?_⟩,
    fun came => ⟨fun hcame' => h.answered_unique hcame' hcame, ?_⟩⟩
  · rintro ⟨rfl, rfl, rfl⟩
    exact hsent
  · rintro rfl
    exact hcame

theorem Sound.not_received_of_givenUp (h : Sound log) (hgiven : .givenUp n ∈ log) {task : Nat}
    {link : Link} {text : String} {result : Except ControlError Reply} :
    .received n task link text result ∉ log := by
  intro hreceived
  cases h.eq_of_mem (Event.ends_of_follows n) hgiven hreceived (by simp [Event.ends])
    (by simp [Event.ends])

theorem Sound.eq_error_of_fault (h : Sound log) {error : ControlError}
    (hfault : .answered n (.error error) ∈ log) {task : Nat} {link : Link} {text : String}
    {result : Except ControlError Reply} (hreceived : .received n task link text result ∈ log) :
    result = .error error := by
  obtain ⟨-, came, hcame, herror, -⟩ := h.received_spec hreceived
  exact herror error (h.answered_unique hcame hfault)

end Sound

end LabControl.Tasks
