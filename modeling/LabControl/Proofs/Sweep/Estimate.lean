/-
# What an estimate asks, and what it is made of

An estimate asks for the ids of a channel's sweep tool and then for six panel variables, in a fixed
order.  It breaks off at the first fault of the link, and at the first variable whose text is no
number; in the second case there is no estimate.

`Asks` says what a list of such queries sends and which of the three results it has, and
`Estimates` adds where the numbers of an estimate come from: each from the reply to the query of
its own variable.
-/
import LabControl.Sweep.Estimate
import LabControl.Proofs.Sweep.Body
import Mathlib.Data.List.Forall2

namespace LabControl

variable {ν α β : Type} [Quantity ν]

/-! ## 1. Numbers in panel variables -/

/-- The number that a panel variable holds by the reply to its query: what the text stands for
without the blanks around it. -/
def Reply.panelNumber? (r : Reply) : Option ν :=
  Quantity.read? (Text.trimChars r.variableText.toList)

/-- **A rejected reply holds no number**: its text is empty, and the empty text stands for none. -/
theorem Reply.panelNumber?_eq_some_iff {r : Reply} {x : Float} :
    r.panelNumber? = some x ↔
      (r.answers "get_var" = true ∧ r.flag 0 = true) ∧
        Quantity.read? (Text.trimChars (r.arg 1).toList) = some x := by
  have hempty : (Quantity.read? (Text.trimChars "".toList) : Option Float) = none := rfl
  rw [panelNumber?, variableText, ← Bool.and_eq_true]
  split
  · next haccepted => rw [haccepted, eq_self, true_and]
  · next hrejected =>
    rw [hempty]
    constructor
    · rintro ⟨⟩
    · exact fun h => absurd h.1 hrejected

/-- The query of a panel variable was answered, but with no number. -/
def Occurrence.Unreadable (o : Occurrence ν) : Prop :=
  ∃ name reply, o = .ordered (.getVar name) (.ok reply) ∧
    (reply.panelNumber? : Option ν) = none

/-- **A panel variable was read to hold a number**: its query was accepted, and the text that came
back stands for that number. -/
def History.Holds (t : History Float) (name : String) (x : Float) : Prop :=
  ∃ reply : Reply, .ordered (.getVar name) (.ok reply) ∈ t ∧
    (reply.answers "get_var" = true ∧ reply.flag 0 = true) ∧
    Quantity.read? (Text.trimChars (reply.arg 1).toList) = some x

theorem History.holds_iff {t : History Float} {name : String} {x : Float} :
    t.Holds name x ↔
      ∃ reply : Reply, .ordered (.getVar name) (.ok reply) ∈ t ∧ reply.panelNumber? = some x := by
  simp only [Holds, Reply.panelNumber?_eq_some_iff]

theorem History.Holds.cons {t : History Float} {name : String} {x : Float}
    (h : t.Holds name x) (o : Occurrence Float) : History.Holds (o :: t) name x := by
  obtain ⟨reply, hmem, hx⟩ := h
  exact ⟨reply, List.mem_cons_of_mem o hmem, hx⟩

namespace Sweep

open LabControl.Action (Runs)

/-! ## 2. Queries up to the first that breaks off -/

/-- An occurrence after which nothing more is asked. -/
def EndsQueries (o : Occurrence ν) : Prop := (∃ fault, o.fault? = some fault) ∨ o.Unreadable

/-- **What a list of queries sends, and how it ends**: it is asked up to the first query that fails
or has no number for its answer.  The result is an error, nothing or a value, as the one, the other
or neither of these happened. -/
structure Asks (queries : List (Instruction ν)) (t : History ν)
    (r : Except ControlError (Option α)) : Prop where
  /-- Nothing happens but exchanges on the remote link. -/
  exchanges : ∀ o ∈ t, ∃ i d, o = .ordered i d
  /-- No query is sent but the first ones of the list, in their order. -/
  sent_isPrefix : t.sent <+: remotely queries
  /-- Nothing comes after a fault or after a text that is no number. -/
  stops : ∀ before o after, t = before ++ o :: after → EndsQueries o → after = []
  /-- The error is that of a fault. -/
  error_iff : ∀ error, r = .error error ↔ ∃ o ∈ t, ∃ fault, o.fault? = some fault ∧
    fault.val = error
  /-- There is no value just if some text was no number. -/
  none_iff : r = .ok none ↔ ∃ o ∈ t, o.Unreadable
  /-- Where there is a value, no query was left out. -/
  complete : ∀ a, r = .ok (some a) → t.sent = remotely queries

section Asks

variable {i : Instruction ν} {queries : List (Instruction ν)} {t : History ν}
  {r : Except ControlError (Option α)}

theorem not_unreadable_error {fault : Fault} :
    ¬ (Occurrence.ordered i (.error fault)).Unreadable := by
  rintro ⟨name, reply, h, -⟩
  cases h

omit [Quantity ν] in
/-- Nothing comes after the only occurrence of a history. -/
theorem after_eq_nil_of_single {o o' : Occurrence ν} {before after : History ν}
    (h : [o'] = before ++ o :: after) : after = [] := by
  have hlength := congrArg List.length h
  simp only [List.length_append, List.length_cons, List.length_nil] at hlength
  exact List.length_eq_zero_iff.mp (by omega)

theorem asks_nil (a : α) : Asks ([] : List (Instruction ν)) [] (.ok (some a)) where
  exchanges := by simp
  sent_isPrefix := List.prefix_rfl
  stops before o after h := by simp at h
  error_iff error := by simp
  none_iff := by simp
  complete a _ := rfl

/-- A query that is lost is the last one. -/
theorem asks_lost (fault : Fault) :
    Asks (i :: queries) [.ordered i (.error fault)]
      (.error fault.val : Except ControlError (Option α)) where
  exchanges := by simp
  sent_isPrefix := List.prefix_append [_] _
  stops before o after h _ := after_eq_nil_of_single h
  error_iff error := by
    constructor
    · rintro ⟨⟩
      exact ⟨_, List.mem_cons_self, fault, rfl, rfl⟩
    · rintro ⟨o, ho, fault', hfault, rfl⟩
      obtain rfl := List.mem_singleton.mp ho
      cases hfault
      rfl
  none_iff := by simp [not_unreadable_error]
  complete a h := by cases h

/-- A query whose answer is no number is the last one. -/
theorem asks_unreadable {name : String} {reply : Reply}
    (h : (reply.panelNumber? : Option ν) = none) :
    Asks (.getVar name :: queries) [.ordered (.getVar name) (.ok reply)]
      (.ok none : Except ControlError (Option α)) where
  exchanges := by simp
  sent_isPrefix := List.prefix_append [_] _
  stops before o after h _ := after_eq_nil_of_single h
  error_iff error := by simp [Occurrence.fault?]
  none_iff := iff_of_true rfl ⟨_, List.mem_cons_self, name, reply, rfl, h⟩
  complete a h := by cases h

/-- A query that is answered, and by a number if it asks for one, is followed by the next. -/
theorem Asks.cons (h : Asks queries t r) {reply : Reply}
    (hreply : ¬ (Occurrence.ordered i (.ok reply)).Unreadable) :
    Asks (i :: queries) (.ordered i (.ok reply) :: t) r where
  exchanges o ho := by
    rcases List.mem_cons.mp ho with rfl | ho
    · exact ⟨i, _, rfl⟩
    · exact h.exchanges o ho
  sent_isPrefix := (List.prefix_cons_inj _).mpr h.sent_isPrefix
  stops before o after ht ho := by
    rcases before with _ | ⟨first, before⟩
    · obtain ⟨rfl, rfl⟩ := List.cons.inj ht
      rcases ho with ⟨fault, hfault⟩ | hunreadable
      · cases hfault
      · exact absurd hunreadable hreply
    · exact h.stops before o after (List.cons.inj ht).2 ho
  error_iff error := by simp [h.error_iff, Occurrence.fault?]
  none_iff := by simp [h.none_iff, hreply]
  complete a ha := congrArg (_ :: ·) (h.complete a ha)

/-- What is made of the value does not count. -/
theorem Asks.map {f : α → Option β} (h : Asks queries t r)
    (hf : ∀ a, r = .ok (some a) → (f a).isSome = true) :
    Asks queries t (r.map fun found => found.bind f) where
  exchanges := h.exchanges
  sent_isPrefix := h.sent_isPrefix
  stops := h.stops
  error_iff error := by
    rw [← h.error_iff]
    rcases r with e | a <;> simp [Except.map]
  none_iff := by
    rw [← h.none_iff]
    rcases r with e | _ | a
    · simp [Except.map]
    · simp [Except.map]
    · have := Option.isSome_iff_ne_none.mp (hf a rfl)
      simpa [Except.map] using this
  complete b hb := by
    rcases r with e | _ | a
    · cases hb
    · cases hb
    · exact h.complete a rfl

end Asks

/-! ## 3. Reading panel variables -/

/-- **Reading panel variables as numbers**: what happens, and what is read. -/
inductive ReadsNumbers (tag : String) :
    List String → History ν → Except ControlError (Option (List ν)) → Prop where
  | done : ReadsNumbers tag [] [] (.ok (some []))
  | lost {name : String} {rest : List String} (fault : Fault) :
    ReadsNumbers tag (name :: rest) [.ordered (.getVar (tag ++ name)) (.error fault)]
      (.error fault.val)
  | unreadable {name : String} {rest : List String} {reply : Reply}
      (h : (reply.panelNumber? : Option ν) = none) :
    ReadsNumbers tag (name :: rest) [.ordered (.getVar (tag ++ name)) (.ok reply)] (.ok none)
  | read {name : String} {rest : List String} {reply : Reply} {x : ν} {t : History ν}
      {r : Except ControlError (Option (List ν))} (h : reply.panelNumber? = some x)
      (hrest : ReadsNumbers tag rest t r) :
    ReadsNumbers tag (name :: rest) (.ordered (.getVar (tag ++ name)) (.ok reply) :: t)
      (r.map fun later => later.map (x :: ·))

theorem runs_readNumbers {tag : String} {names : List String} {t : History ν}
    {r : Except ControlError (Option (List ν))}
    (h : Runs (Engine.readNumbers tag names) t r) : ReadsNumbers tag names t r := by
  induction names generalizing t r with
  | nil =>
    obtain ⟨rfl, rfl⟩ := Action.runs_pure.mp h
    exact .done
  | cons name rest ih =>
    rcases Action.runs_bind.mp h with ⟨error, hq, rfl⟩ | ⟨text, t₁, t₂, hq, hnext, rfl⟩
    · obtain ⟨fault | reply, rfl, hr⟩ := Client.runs_getVar.mp hq
      · cases hr
        exact .lost fault
      · cases hr
    · obtain ⟨fault | reply, rfl, hr⟩ := Client.runs_getVar.mp hq
      · cases hr
      · cases hr
        split at hnext
        · next hnone =>
          obtain ⟨rfl, rfl⟩ := Action.runs_pure.mp hnext
          exact .unreadable hnone
        · next x hx =>
          obtain ⟨later, hlater, rfl⟩ := Action.runs_map.mp hnext
          exact .read hx (ih hlater)

section ReadsNumbers

variable {tag : String} {names : List String} {t : History ν}
  {r : Except ControlError (Option (List ν))}

/-- Variables are asked for in their order, up to the first that breaks off. -/
theorem ReadsNumbers.asks (h : ReadsNumbers tag names t r) :
    Asks (names.map fun name => .getVar (tag ++ name)) t r := by
  induction h with
  | done => exact asks_nil []
  | lost fault => exact asks_lost fault
  | unreadable h => exact asks_unreadable h
  | @read name rest reply x t r h hrest ih =>
    have hreadable :
        ¬ (.ordered (.getVar (tag ++ name)) (.ok reply) : Occurrence ν).Unreadable := by
      rintro ⟨name', reply', heq, hnone⟩
      cases heq
      rw [h] at hnone
      cases hnone
    have hmap : (fun later : Option (List ν) => later.map (x :: ·)) =
        fun later => later.bind fun xs => some (x :: xs) :=
      funext fun later => Option.map_eq_bind
    rw [hmap]
    exact (ih.cons hreadable).map fun _ _ => rfl

end ReadsNumbers

section Holds

variable {tag : String} {names : List String} {t : History Float}
  {r : Except ControlError (Option (List Float))}

/-- **What is read is what the variables hold**, each by the reply to its own query. -/
theorem ReadsNumbers.holds (h : ReadsNumbers tag names t r) {xs : List Float}
    (hr : r = .ok (some xs)) :
    List.Forall₂ (fun name x => t.Holds (tag ++ name) x) names xs := by
  induction h generalizing xs with
  | done =>
    cases hr
    exact .nil
  | lost fault => cases hr
  | unreadable h => cases hr
  | @read name rest reply x t r h hrest ih =>
    rcases r with error | _ | later
    · cases hr
    · cases hr
    · cases hr
      refine .cons (History.holds_iff.mpr ⟨reply, List.mem_cons_self, h⟩) ?_
      exact (ih rfl).imp fun name x hx => hx.cons _

/-- Where every variable holds a number, numbers are read. -/
theorem ReadsNumbers.exists_of_holds (h : ReadsNumbers tag names t r) (hnames : names.Nodup)
    (hall : ∀ name ∈ names, ∃ x, t.Holds (tag ++ name) x) : ∃ xs, r = .ok (some xs) := by
  induction h with
  | done => exact ⟨[], rfl⟩
  | lost fault =>
    obtain ⟨x, reply, hmem, -⟩ := hall _ List.mem_cons_self
    simp at hmem
  | @unreadable name rest reply h =>
    obtain ⟨x, hx⟩ := hall name List.mem_cons_self
    obtain ⟨reply', hmem, hx⟩ := History.holds_iff.mp hx
    cases List.mem_singleton.mp hmem
    rw [h] at hx
    cases hx
  | @read name rest reply x t r h hrest ih =>
    obtain ⟨hname, hnodup⟩ := List.nodup_cons.mp hnames
    obtain ⟨xs, rfl⟩ := ih hnodup fun name' hmem => by
      obtain ⟨x', reply', hreply, hx⟩ := hall name' (List.mem_cons_of_mem name hmem)
      rcases List.mem_cons.mp hreply with heq | hreply
      · -- the first query is for another variable
        obtain ⟨rfl, -⟩ : name' = name ∧ reply' = reply := by simpa using heq
        exact absurd hmem hname
      · exact ⟨x', reply', hreply, hx⟩
    exact ⟨x :: xs, rfl⟩

end Holds

/-! ## 4. Estimates -/

/-- The panel variables of a timing, in the order they are asked for. -/
def timingNames : List String :=
  ["rate_up", "rate_down", "scaled_up", "scaled_down", "hold_up", "hold_down"]

theorem timingNames_eq : timingNames = Engine.timingVariables := rfl

/-- **What the queries of a timing can meet**, and the numbers they read. -/
inductive ReadsTiming (tool : String) (channel : Nat) :
    History ν → Except ControlError (Option (List ν)) → Prop where
  | panelLost (fault : Fault) :
    ReadsTiming tool channel [.ordered .getPanel (.error fault)] (.error fault.val)
  | idLost (panel : Reply) (fault : Fault) :
    ReadsTiming tool channel
      [.ordered .getPanel (.ok panel), .ordered (.getSweepId channel) (.error fault)]
      (.error fault.val)
  | identified (panel sweep : Reply) {t : History ν} {r : Except ControlError (Option (List ν))}
      (h : ReadsNumbers (tagOf tool [panel, sweep]) timingNames t r) :
    ReadsTiming tool channel
      (.ordered .getPanel (.ok panel) :: .ordered (.getSweepId channel) (.ok sweep) :: t) r

theorem runs_sweepTiming {e : Engine} {channel : Nat} {t : History ν}
    {r : Except ControlError (Option (Timing ν))} (h : Runs (Engine.sweepTiming e channel) t r) :
    ∃ numbers, ReadsTiming e.panelTool channel t numbers ∧
      r = numbers.map fun found => found.bind Engine.timingOf := by
  rcases Action.runs_bind.mp h with ⟨error, hprefix, rfl⟩ | ⟨tag, t₁, t₂, hprefix, hread, rfl⟩
  · refine ⟨.error error, ?_, rfl⟩
    cases runs_sweepPrefix_error hprefix .run channel none with
    | lost fault => exact .panelLost fault
    | answered hlater =>
      cases hlater with
      | lost fault => exact .idLost _ fault
      | answered hlater => cases hlater
  · obtain ⟨panel, sweep, rfl, rfl⟩ := runs_sweepPrefix_ok hprefix
    obtain ⟨numbers, hnumbers, rfl⟩ := Action.runs_map.mp hread
    rw [← timingNames_eq] at hnumbers
    exact ⟨numbers, .identified panel sweep (runs_readNumbers hnumbers), rfl⟩

/-- The queries of a timing, by the replies that come. -/
def timingQueries (tool : String) (channel : Nat) (replies : List Reply) :
    List (Instruction ν) :=
  idQueries channel ++
    timingNames.map fun name => .getVar (tagOf tool replies ++ name)

theorem ReadsTiming.asks {tool : String} {channel : Nat} {t : History ν}
    {numbers : Except ControlError (Option (List ν))} (h : ReadsTiming tool channel t numbers) :
    Asks (timingQueries tool channel t.replies) t numbers := by
  have hid (i : Instruction ν) (reply : Reply) (hi : ∀ name, i ≠ .getVar name) :
      ¬ (Occurrence.ordered i (.ok reply)).Unreadable := by
    rintro ⟨name, reply', heq, -⟩
    cases heq
    exact hi name rfl
  cases h with
  | panelLost fault => exact asks_lost fault
  | idLost panel fault => exact (asks_lost fault).cons (hid .getPanel panel nofun)
  | identified panel sweep h =>
    exact (h.asks.cons (hid (.getSweepId channel) sweep nofun)).cons (hid .getPanel panel nofun)

/-- **A timing is what the panel variables hold**: the rates and hold times are the numbers of
their own variables, and the span is the distance between the endpoints. -/
structure Timing.FromPanel (timing : Timing Float) (tag : String) (t : History Float) : Prop where
  rateUp : t.Holds (tag ++ "rate_up") timing.rateUp
  rateDown : t.Holds (tag ++ "rate_down") timing.rateDown
  holdUp : t.Holds (tag ++ "hold_up") timing.holdUp
  holdDown : t.Holds (tag ++ "hold_down") timing.holdDown
  span : ∃ upper lower, t.Holds (tag ++ "scaled_up") upper ∧
    t.Holds (tag ++ "scaled_down") lower ∧ timing.span = upper - lower

/-- All six variables hold numbers where a timing is made of them. -/
theorem Timing.FromPanel.exists_holds {timing : Timing Float} {tag : String} {t : History Float}
    (h : timing.FromPanel tag t) :
    ∀ name ∈ timingNames, ∃ x, t.Holds (tag ++ name) x := by
  obtain ⟨upper, lower, hupper, hlower, -⟩ := h.span
  simp only [timingNames, List.forall_mem_cons]
  exact ⟨⟨_, h.rateUp⟩, ⟨_, h.rateDown⟩, ⟨upper, hupper⟩, ⟨lower, hlower⟩, ⟨_, h.holdUp⟩,
    ⟨_, h.holdDown⟩, nofun⟩

/-- The timing of six numbers that the panel variables hold. -/
theorem timingOf_of_holds {tag : String} {t : History Float} {xs : List Float}
    (h : List.Forall₂ (fun name x => t.Holds (tag ++ name) x) timingNames xs) :
    ∃ timing, Engine.timingOf xs = some timing ∧ timing.FromPanel tag t := by
  obtain _ | ⟨hrateUp, _ | ⟨hrateDown, _ | ⟨hupper, _ | ⟨hlower, _ | ⟨hholdUp,
    _ | ⟨hholdDown, ⟨⟩⟩⟩⟩⟩⟩⟩ := h
  exact ⟨_, rfl, hrateUp, hrateDown, hholdUp, hholdDown, _, _, hupper, hlower, rfl⟩

/-- **What an estimate asks, and what it is made of.**  `make` is what is made of the timing. -/
structure Estimates (e : Engine) (channel : Nat) (make : Timing Float → α) (t : History Float)
    (r : Except ControlError (Option α)) : Prop
    extends Asks (timingQueries e.panelTool channel t.replies) t r where
  /-- There is a value just if all six variables hold numbers and nothing fails. -/
  some_iff : (∃ a, r = .ok (some a)) ↔
    (∀ name ∈ timingNames, ∃ x,
      t.Holds (tagOf e.panelTool t.replies ++ name) x) ∧ ∀ o ∈ t, o.fault? = none
  /-- The value is made of what the variables hold. -/
  made : ∀ a, r = .ok (some a) → ∃ timing : Timing Float, a = make timing ∧
    timing.FromPanel (tagOf e.panelTool t.replies) t

/-- The six numbers are read from what the variables hold. -/
theorem ReadsTiming.holds {tool : String} {channel : Nat} {t : History Float} {xs : List Float}
    (h : ReadsTiming tool channel t (.ok (some xs))) :
    List.Forall₂ (fun name x => t.Holds (tagOf tool t.replies ++ name) x)
      timingNames xs := by
  cases h with
  | identified panel sweep h => exact (h.holds rfl).imp fun name x hx => (hx.cons _).cons _

theorem ReadsTiming.exists_of_holds {tool : String} {channel : Nat} {t : History Float}
    {numbers : Except ControlError (Option (List Float))} (h : ReadsTiming tool channel t numbers)
    (hall : ∀ name ∈ timingNames, ∃ x, t.Holds (tagOf tool t.replies ++ name) x) :
    ∃ xs, numbers = .ok (some xs) := by
  cases h with
  | panelLost fault =>
    obtain ⟨x, reply, hmem, -⟩ := hall "rate_up" (by decide)
    simp at hmem
  | idLost panel fault =>
    obtain ⟨x, reply, hmem, -⟩ := hall "rate_up" (by decide)
    simp at hmem
  | identified panel sweep h =>
    refine h.exists_of_holds (by decide) fun name hname => ?_
    obtain ⟨x, reply, hmem, hx⟩ := hall name hname
    rcases List.mem_cons.mp hmem with heq | hmem
    · cases heq
    rcases List.mem_cons.mp hmem with heq | hmem
    · cases heq
    exact ⟨x, reply, hmem, hx⟩

/-- **What is asked for a timing, and what it is made of.** -/
theorem estimates_sweepTiming {e : Engine} {channel : Nat} {t : History Float}
    {r : Except ControlError (Option (Timing Float))}
    (h : Runs (Engine.sweepTiming e channel) t r) : Estimates e channel id t r := by
  obtain ⟨numbers, hnumbers, rfl⟩ := runs_sweepTiming h
  have hvalue {xs : List Float} (hxs : numbers = .ok (some xs)) :
      ∃ timing, Engine.timingOf xs = some timing ∧
        timing.FromPanel (tagOf e.panelTool t.replies) t := by
    subst hxs
    exact timingOf_of_holds hnumbers.holds
  have hmade (timing : Timing Float)
      (hr : (numbers.map fun found => found.bind Engine.timingOf) = .ok (some timing)) :
      timing.FromPanel (tagOf e.panelTool t.replies) t := by
    rcases numbers with error | _ | xs
    · cases hr
    · cases hr
    · obtain ⟨timing', htiming, hpanel⟩ := hvalue rfl
      have hsame : Engine.timingOf xs = some timing := Except.ok.inj hr
      rw [htiming] at hsame
      cases hsame
      exact hpanel
  have hasks := hnumbers.asks.map (fun xs hxs => by
    obtain ⟨timing, htiming, -⟩ := hvalue hxs
    exact Option.isSome_iff_exists.mpr ⟨timing, htiming⟩)
  refine ⟨hasks, ⟨?_, ?_⟩, fun timing hr => ⟨timing, rfl, hmade timing hr⟩⟩
  · rintro ⟨timing, hr⟩
    refine ⟨(hmade timing hr).exists_holds, fun o ho => Option.eq_none_iff_forall_ne_some.mpr ?_⟩
    intro fault hfault
    have herror := (hasks.error_iff fault.val).mpr ⟨o, ho, fault, hfault, rfl⟩
    rw [hr] at herror
    cases herror
  · rintro ⟨hall, -⟩
    obtain ⟨xs, rfl⟩ := hnumbers.exists_of_holds hall
    obtain ⟨timing, htiming, -⟩ := hvalue rfl
    exact ⟨timing, congrArg Except.ok htiming⟩

/-- What is made of a timing in the end does not change what is asked. -/
theorem Estimates.map {e : Engine} {channel : Nat} {make : Timing Float → α} {t : History Float}
    {r : Except ControlError (Option α)} (h : Estimates e channel make t r) (f : α → β) :
    Estimates e channel (f ∘ make) t (r.map fun found => found.map f) := by
  have hmap : (fun found : Option α => found.map f) = fun found => found.bind fun a => some (f a) :=
    funext fun found => Option.map_eq_bind
  have hsome {b : β} : (r.map fun found => found.map f) = .ok (some b) ↔
      ∃ a, r = .ok (some a) ∧ f a = b := by
    rcases r with error | _ | a
    · simp [Except.map]
    · simp [Except.map]
    · simp [Except.map]
  refine ⟨hmap ▸ h.toAsks.map fun _ _ => rfl, ?_, ?_⟩
  · rw [← h.some_iff]
    simp only [hsome]
    constructor
    · rintro ⟨b, a, ha, -⟩
      exact ⟨a, ha⟩
    · rintro ⟨a, ha⟩
      exact ⟨f a, a, ha, rfl⟩
  · intro b hb
    obtain ⟨a, ha, rfl⟩ := hsome.mp hb
    obtain ⟨timing, rfl, hpanel⟩ := h.made a ha
    exact ⟨timing, rfl, hpanel⟩

/-- **Estimating only asks, and what it yields is what the panel says**, in any surroundings: the
timing of a sweep tool, and the hours that a number of pairs will take by it. -/
theorem estimates_from_panel (e : Engine) (channel steps : Nat) (s : Surroundings Float) :
    Estimates e channel id (s.history (Engine.sweepTiming e channel).run)
        (s.result (Engine.sweepTiming e channel).run) ∧
      Estimates e channel (fun timing => timing.hours steps)
        (s.history (Engine.estimate e channel steps).run)
        (s.result (Engine.estimate e channel steps).run) := by
  constructor
  · exact estimates_sweepTiming (s.history_runs _)
  · obtain ⟨timing, htiming, hr⟩ :=
      Action.runs_map.mp (s.history_runs (Engine.estimate e channel steps).run)
    rw [hr]
    exact (estimates_sweepTiming htiming).map fun timing => timing.hours steps

end Sweep

end LabControl
