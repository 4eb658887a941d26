import QuorumRouting.Proofs.Call.Dispatch

/-!
What the history of a cluster tells of its nodes: which event excluded a node, when a slot for a
test request was granted, and which success of a test request awaits the next evaluation. Each of
these facts is about an event of the past and outlasts the events that do not concern it.
-/

set_option autoImplicit false

namespace QuorumRouting.Cluster

variable {Client : Type}

def Event.IsEvaluation (event : Event Client) : Prop :=
  ∃ now answer, event = .operation (.evaluateHealth now) answer

def Event.Reports (id : NodeId) (transition : Transition) (event : Event Client) : Prop :=
  ∃ now transitions,
    event = .operation (.evaluateHealth now) (.ok (.transitions transitions)) ∧
      (id, transition) ∈ transitions

theorem Event.Reports.isEvaluation {id : NodeId} {transition : Transition} {event : Event Client}
    (reports : event.Reports id transition) : event.IsEvaluation := by
  obtain ⟨now, transitions, shape, _⟩ := reports
  exact ⟨now, _, shape⟩

structure ExcludedSince (events : List (Event Client)) (id : NodeId) (since : Nat) : Prop where
  reported : ∃ event ratio, events[since]? = some event ∧ event.Reports id (.excluded ratio)
  lasting : ∀ later event transition, since < later → events[later]? = some event →
    ¬ event.Reports id transition

/-- A plan of an earlier event names the member of the ticket; a test request was granted to a node
that was excluded. -/
structure Granted (events : List (Event Client)) (ticket : Ticket Client) : Prop where
  planned : ∃ key now plan,
    events[ticket.call]? = some (.operation (.resolve key now) (.ok (.plan plan))) ∧
      ticket.member ∈ plan
  excluded : ticket.member.testRequest = true →
    ∃ since, ExcludedSince (events.take ticket.call) ticket.member.handle.id since

/-- The node's last exclusion, and a success of a test request to it since then that no evaluation
has taken into account. -/
structure Recovery (events : List (Event Client)) (id : NodeId) (since success : Nat)
    (ticket : Ticket Client) : Prop where
  excluded : ExcludedSince events id since
  after : since < success
  succeeded : events[success]? = some (.completion ticket none)
  testRequest : ticket.member.testRequest = true
  member_id : ticket.member.handle.id = id
  call_lt : ticket.call < success
  granted : Granted events ticket
  unjudged : ∀ later event, success < later → events[later]? = some event →
    ¬ event.IsEvaluation

section Histories

variable {events : List (Event Client)} {event : Event Client} {id : NodeId}

theorem getElem?_append_of_some {index : Nat} {known : Event Client}
    (found : events[index]? = some known) : (events ++ [event])[index]? = some known := by
  rw [List.getElem?_append_left (List.getElem?_eq_some_iff.mp found).1]
  exact found

theorem getElem?_append_cases {index : Nat} {known : Event Client}
    (found : (events ++ [event])[index]? = some known) :
    events[index]? = some known ∨ index = events.length ∧ known = event := by
  rcases Nat.lt_or_ge index events.length with early | late
  · rw [List.getElem?_append_left early] at found
    exact .inl found
  · rw [List.getElem?_append_right late] at found
    have first : index - events.length = 0 := by
      have bound := (List.getElem?_eq_some_iff.mp found).1
      rw [List.length_singleton] at bound
      omega
    rw [first] at found
    exact .inr ⟨by omega, (Option.some.inj found).symm⟩

theorem ExcludedSince.since_lt {since : Nat} (excluded : ExcludedSince events id since) :
    since < events.length := by
  obtain ⟨event, ratio, found, _⟩ := excluded.reported
  exact (List.getElem?_eq_some_iff.mp found).1

theorem ExcludedSince.append {since : Nat} (excluded : ExcludedSince events id since)
    (quiet : ∀ transition, ¬ event.Reports id transition) :
    ExcludedSince (events ++ [event]) id since := by
  obtain ⟨exclusion, ratio, found, reports⟩ := excluded.reported
  refine ⟨⟨exclusion, ratio, getElem?_append_of_some found, reports⟩, ?_⟩
  intro later known transition after atLater
  rcases getElem?_append_cases atLater with earlier | ⟨_, rfl⟩
  · exact excluded.lasting later known transition after earlier
  · exact quiet transition

theorem ExcludedSince.append_of_quiet {since : Nat} (excluded : ExcludedSince events id since)
    (quiet : ¬ event.IsEvaluation) : ExcludedSince (events ++ [event]) id since :=
  excluded.append (fun _ reports => quiet reports.isEvaluation)

theorem ExcludedSince.take {since count : Nat} (excluded : ExcludedSince events id since)
    (within : since < count) : ExcludedSince (events.take count) id since := by
  obtain ⟨exclusion, ratio, found, reports⟩ := excluded.reported
  refine ⟨⟨exclusion, ratio, ?_, reports⟩, ?_⟩
  · rw [List.getElem?_take_of_lt within]
    exact found
  · intro later known transition after atLater
    have early : later < count := by
      have bound := (List.getElem?_eq_some_iff.mp atLater).1
      rw [List.length_take] at bound
      omega
    rw [List.getElem?_take_of_lt early] at atLater
    exact excluded.lasting later known transition after atLater

theorem getElem?_append_of_lt {index : Nat} (late : events.length < index) :
    (events ++ [event])[index]? = none := by
  rw [List.getElem?_eq_none_iff, List.length_append, List.length_singleton]
  omega

theorem excludedSince_append (reports : ∃ ratio, event.Reports id (.excluded ratio)) :
    ExcludedSince (events ++ [event]) id events.length := by
  obtain ⟨ratio, excludes⟩ := reports
  refine ⟨⟨event, ratio, List.getElem?_concat_length, excludes⟩, ?_⟩
  intro later known transition after atLater
  rw [getElem?_append_of_lt after] at atLater
  cases atLater

/-- There is one last exclusion. -/
theorem ExcludedSince.unique {first second : Nat} (one : ExcludedSince events id first)
    (other : ExcludedSince events id second) : first = second := by
  obtain ⟨event, ratio, found, reports⟩ := one.reported
  obtain ⟨later, laterRatio, laterFound, laterReports⟩ := other.reported
  rcases Nat.lt_trichotomy first second with before | same | behind
  · exact absurd laterReports (one.lasting second later _ before laterFound)
  · exact same
  · exact absurd reports (other.lasting first event _ behind found)

theorem Granted.call_lt {ticket : Ticket Client} (granted : Granted events ticket) :
    ticket.call < events.length := by
  obtain ⟨key, now, plan, found, _⟩ := granted.planned
  exact (List.getElem?_eq_some_iff.mp found).1

theorem Granted.append {ticket : Ticket Client} (granted : Granted events ticket) :
    Granted (events ++ [event]) ticket := by
  have early := granted.call_lt
  obtain ⟨key, now, plan, found, member⟩ := granted.planned
  refine ⟨⟨key, now, plan, getElem?_append_of_some found, member⟩, ?_⟩
  rw [List.take_append_of_le_length (Nat.le_of_lt early)]
  exact granted.excluded

theorem Recovery.append {since success : Nat} {ticket : Ticket Client}
    (recovery : Recovery events id since success ticket) (quiet : ¬ event.IsEvaluation) :
    Recovery (events ++ [event]) id since success ticket := by
  refine
    { excluded := recovery.excluded.append_of_quiet quiet
      after := recovery.after
      succeeded := getElem?_append_of_some recovery.succeeded
      testRequest := recovery.testRequest
      member_id := recovery.member_id
      call_lt := recovery.call_lt
      granted := recovery.granted.append
      unjudged := ?_ }
  intro later known after atLater
  rcases getElem?_append_cases atLater with earlier | ⟨_, rfl⟩
  · exact recovery.unjudged later known after earlier
  · exact quiet

/-- The slot of a recovery was granted in the node's last exclusion, or before it. -/
theorem Recovery.slot {since success : Nat} {ticket : Ticket Client}
    (recovery : Recovery events id since success ticket) :
    ∃ granted, ExcludedSince (events.take ticket.call) id granted ∧
      (granted = since ∨ ticket.call < since) := by
  obtain ⟨granted, slot⟩ := recovery.granted.excluded recovery.testRequest
  rw [recovery.member_id] at slot
  refine ⟨granted, slot, ?_⟩
  obtain ⟨key, now, plan, resolved, _⟩ := recovery.granted.planned
  obtain ⟨exclusion, ratio, evaluated, reports⟩ := recovery.excluded.reported
  rcases Nat.lt_trichotomy ticket.call since with before | same | behind
  · exact .inr before
  · rw [same, evaluated] at resolved
    obtain ⟨time, transitions, shape, _⟩ := reports
    rw [shape] at resolved
    cases resolved
  · exact .inl (slot.unique (recovery.excluded.take behind))

end Histories

end QuorumRouting.Cluster
