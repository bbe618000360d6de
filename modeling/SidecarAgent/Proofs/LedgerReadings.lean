import SidecarAgent.Config.Source
import SidecarAgent.Egress.Publisher
import SidecarAgent.Endpoint.Publisher
import SidecarAgent.Proofs.FailingDialogues
import SidecarAgent.Proofs.ManagerRun

/-!
# What notes do to a ledger

Notes change the readings of the families that they measure and of no others
(`reading_enter_of_measureOnly`).  A dialogue without measurements of its own is entered as its
exchanges (`Dialogue.Silent.enter_notes`), each of which is one request more
(`reading_requests_enter`).  A manager measures nothing, and a cache its size after every event and
the rules that it rejects.
-/

namespace SidecarAgent.Telemetry

/-! ## Notes and families -/

/-- The metric that a measurement is about. -/
def Measurement.metric : Measurement → Metric
  | touch metric => metric
  | increment metric => metric
  | set metric _ => metric

/-- Some notes measure nothing outside some families. -/
def MeasureOnly (families : List MetricFamily) (notes : List Note) : Prop :=
  ∀ n ∈ notes, ∀ m, n.measurement? = some m → m.metric.family ∈ families

namespace MeasureOnly

variable {families : List MetricFamily} {n : Note} {notes later : List Note}

/-- Where nothing is noted, nothing is measured. -/
theorem nil : MeasureOnly families [] := by
  intro n hn
  cases hn

/-- A log entry measures nothing. -/
theorem log_cons {entry : LogEntry} (h : MeasureOnly families notes) :
    MeasureOnly families (.log entry :: notes) := by
  intro n hn m hm
  rcases List.mem_cons.1 hn with rfl | hn
  · cases hm
  · exact h n hn m hm

/-- A measurement is of the family of its metric. -/
theorem measure_cons {m : Measurement} (hm : m.metric.family ∈ families)
    (h : MeasureOnly families notes) : MeasureOnly families (.measure m :: notes) := by
  intro n hn k hk
  rcases List.mem_cons.1 hn with rfl | hn
  · cases hk
    exact hm
  · exact h n hn k hk

/-- A log entry that may be left out measures nothing. -/
theorem notice {given : Bool} {entry : LogEntry} :
    MeasureOnly families (if given then [Note.log entry] else []) := by
  split
  · exact .log_cons .nil
  · exact .nil

/-- What is noted later measures in addition to what was noted before. -/
theorem append (h : MeasureOnly families notes) (hlater : MeasureOnly families later) :
    MeasureOnly families (notes ++ later) := by
  intro n hn
  rcases List.mem_append.1 hn with hn | hn
  · exact h n hn
  · exact hlater n hn

/-- Notes that measure only some families measure only more families. -/
theorem mono {more : List MetricFamily} (h : MeasureOnly families notes) (hmore : families ⊆ more) :
    MeasureOnly more notes := fun n hn m hm => hmore (h n hn m hm)

end MeasureOnly

/-! ## Readings -/

namespace Ledger

/-- Notes are entered one after another. -/
theorem enter_append (l : Ledger) (notes later : List Note) :
    l.enter (notes ++ later) = (l.enter notes).enter later := by
  unfold enter
  rw [List.filterMap_append, List.foldl_append]

/-- A measurement leaves the readings of other metrics. -/
theorem reading_record_of_ne (l : Ledger) {m : Measurement}
    {metric : Metric} (h : metric ≠ m.metric) :
    (l.record m).reading metric = l.reading metric := by
  cases m with
  | touch other => exact l.reading_touch other metric
  | increment other => exact (l.reading_increment other metric).trans (if_neg h)
  | set other n => exact (l.reading_set other metric n).trans (if_neg h)

/-- Notes leave the readings of the families that they do not measure. -/
theorem reading_enter_of_measureOnly (l : Ledger) {families : List MetricFamily} {notes : List Note}
    (h : MeasureOnly families notes) {metric : Metric} (hmetric : metric.family ∉ families) :
    (l.enter notes).reading metric = l.reading metric := by
  induction notes generalizing l with
  | nil => rfl
  | cons n rest ih =>
    have hrest : MeasureOnly families rest := fun k hk => h k (List.mem_cons_of_mem n hk)
    cases n with
    | log entry => exact ih l hrest
    | measure m =>
      have hm : m.metric.family ∈ families := h _ List.mem_cons_self m rfl
      have hne : metric ≠ m.metric := by
        rintro rfl
        exact hmetric hm
      exact (ih (l.record m) hrest).trans (l.reading_record_of_ne hne)

/-- A metric that was set and not measured afterwards has the value that it was set to. -/
theorem reading_enter_set (l : Ledger) (metric : Metric) (n : ℕ) {notes : List Note}
    (h : MeasureOnly [] notes) :
    (l.enter (.measure (.set metric n) :: notes)).reading metric = n := by
  have hlater := (l.record (.set metric n)).reading_enter_of_measureOnly h
    (List.not_mem_nil (a := metric.family))
  exact hlater.trans ((l.reading_set metric metric n).trans (if_pos rfl))

end Ledger

end SidecarAgent.Telemetry

namespace SidecarAgent.Discovery

open Telemetry

/-! ## Exchanges -/

namespace Exchange

/-- An exchange has brought resources. -/
def succeeded (x : Exchange) : Bool :=
  (x.outcome.resources x.request.type x.request.type.decode?).isOk

/-- What is noted about an exchange. -/
def notes (x : Exchange) : List Note :=
  sendNotes x.request.type ++ receiveNotes x.request.type x.succeeded

/-- An exchange sets the cursor of a type when there is a cursor that it puts there, whatever the
cursors are, and leaves those of the other types. -/
def Sets (x : Exchange) (t : ResourceType) : Prop :=
  ∃ cursor, ∀ cursors, x.advance cursors = cursors.set t cursor

/-- An exchange sets the cursor of a type when it brings a response of the type. -/
theorem sets_of_brings {x : Exchange} {t : ResourceType} {response : Response}
    (h : x.Brings t response) : x.Sets t := by
  refine ⟨response.cursor, fun cursors => funext fun u => ?_⟩
  by_cases hu : u = t
  · subst hu
    rw [advance_of_brings cursors h, Cursors.set_self]
  · have hother : u ≠ x.request.type := h.1 ▸ hu
    rw [advance_of_ne cursors hother, Cursors.set_of_ne cursors _ hu]

/-- An exchange that sets the cursor of a type brings a response of the type. -/
theorem Sets.exists_brings {x : Exchange} {t : ResourceType} (h : x.Sets t) :
    ∃ response, x.Brings t response := by
  obtain ⟨cursor, hset⟩ := h
  by_contra hnone
  rw [not_exists] at hnone
  -- an exchange without a response leaves two different cursors different
  have hleft : ∀ cursors : Cursors, cursors t = cursor := fun cursors => by
    rw [← advance_of_not_brings cursors hnone, hset cursors, Cursors.set_self]
  have hequal : (⟨"", ""⟩ : Cursor) = ⟨"1", ""⟩ :=
    (hleft fun _ => ⟨"", ""⟩).trans (hleft fun _ => ⟨"1", ""⟩).symm
  exact absurd hequal (by decide)

/-- An exchange sets the cursor of a type exactly when it is of the type and has succeeded. -/
theorem sets_iff (x : Exchange) (t : ResourceType) :
    x.Sets t ↔ x.request.type = t ∧ x.succeeded = true := by
  constructor
  · intro h
    obtain ⟨response, rfl, houtcome, resources, hunpack⟩ := h.exists_brings
    refine ⟨rfl, ?_⟩
    have hresources :
        x.outcome.resources x.request.type x.request.type.decode? = .ok resources := by
      rw [houtcome]
      exact hunpack
    unfold succeeded
    rw [hresources]
    rfl
  · rintro ⟨rfl, hsucceeded⟩
    rcases x.outcome.advance_cases x.request.type x.request.type.decode? Cursors.start with
      ⟨e, herror, -⟩ | ⟨response, resources, houtcome, hunpack, -⟩
    · unfold succeeded at hsucceeded
      rw [herror] at hsucceeded
      cases hsucceeded
    · exact sets_of_brings ⟨rfl, houtcome, resources, hunpack⟩

instance (x : Exchange) (t : ResourceType) : Decidable (x.Sets t) :=
  decidable_of_iff _ (x.sets_iff t).symm

/-- An exchange is one request more of its type and with its result. -/
theorem reading_requests_enter_notes (l : Ledger) (x : Exchange) (t : ResourceType)
    (succeeded : Bool) :
    (l.enter x.notes).reading (.requests t succeeded) =
      l.reading (.requests t succeeded) +
        if x.request.type = t ∧ x.succeeded = succeeded then 1 else 0 := by
  -- the time of a request is measured before and after it is counted
  have hother : ∀ u, Metric.requests t succeeded ≠ .requestTime u := by
    intro u h
    cases h
  show ((((l.record (.touch (.requestTime x.request.type))).record
    (.increment (.requests x.request.type x.succeeded))).record
    (.increment (.requestTime x.request.type))).reading _) = _
  rw [Ledger.reading_record_of_ne _ (hother _), Ledger.reading_increment, Ledger.reading_touch,
    Ledger.reading_touch]
  by_cases h : x.request.type = t ∧ x.succeeded = succeeded
  · obtain ⟨rfl, rfl⟩ := h
    rw [if_pos rfl, if_pos ⟨rfl, rfl⟩]
  · rw [if_neg h, if_neg]
    · rfl
    · intro heq
      cases heq
      exact h ⟨rfl, rfl⟩

/-- Exchanges are as many requests more as there are of them. -/
theorem reading_requests_enter (l : Ledger) (xs : List Exchange) (t : ResourceType)
    (succeeded : Bool) :
    (l.enter (xs.flatMap notes)).reading (.requests t succeeded) =
      l.reading (.requests t succeeded) +
        xs.countP fun x => x.request.type = t ∧ x.succeeded = succeeded := by
  induction xs generalizing l with
  | nil => rfl
  | cons x rest ih =>
    rw [List.flatMap_cons, Ledger.enter_append, ih, reading_requests_enter_notes, List.countP_cons]
    simp only [decide_eq_true_eq]
    omega

/-- Every exchange has succeeded or failed. -/
theorem countP_succeeded_add (xs : List Exchange) (t : ResourceType) :
    (xs.countP fun x => x.request.type = t ∧ x.succeeded = true) +
        (xs.countP fun x => x.request.type = t ∧ x.succeeded = false) =
      xs.countP fun x => x.request.type = t := by
  induction xs with
  | nil => rfl
  | cons x rest ih =>
    rw [List.countP_cons, List.countP_cons, List.countP_cons, ← ih]
    by_cases ht : x.request.type = t <;> cases x.succeeded <;> simp [ht] <;> omega

/-- An exchange measures requests and the time that they take. -/
theorem measureOnly_notes (x : Exchange) : MeasureOnly [.requestTime, .requests] x.notes :=
  .measure_cons List.mem_cons_self
    (.measure_cons (List.mem_cons_of_mem _ List.mem_cons_self)
      (.measure_cons List.mem_cons_self .nil))

/-- Exchanges measure requests and the time that they take. -/
theorem measureOnly_flatMap_notes (xs : List Exchange) :
    MeasureOnly [.requestTime, .requests] (xs.flatMap notes) := by
  induction xs with
  | nil => exact .nil
  | cons x rest ih => exact x.measureOnly_notes.append ih

end Exchange

/-! ## Dialogues -/

namespace Dialogue

variable {α β : Type}

/-- A dialogue is silent when it measures nothing but its exchanges. -/
def Silent : Dialogue α → Prop
  | done _ => True
  | note n next => n.measurement? = none ∧ next.Silent
  | discover _ _ next => ∀ r, (next r).Silent
  | lookup _ next => ∀ r, (next r).Silent

/-- A silent dialogue is entered into a ledger as its exchanges. -/
theorem Silent.enter_notes {d : Dialogue α} (h : d.Silent) (node : Node) (answers : Answers)
    (cursors : Cursors) (l : Ledger) :
    l.enter (d.answered node answers cursors).notes =
      l.enter ((d.exchanges node answers cursors).flatMap Exchange.notes) := by
  induction d generalizing answers cursors l with
  | done a => rfl
  | note n next ih =>
    cases n with
    | log entry => exact ih h.2 answers cursors l
    | measure m => cases h.1
  | lookup query next ih => exact ih _ (h _) _ cursors l
  | discover t names next ih =>
    -- what a question notes is what its exchange notes
    show l.enter ((sendNotes t ++ receiveNotes t _) ++ _) = l.enter (Exchange.notes _ ++ _)
    rw [Ledger.enter_append, Ledger.enter_append, ih _ (h _)]
    rfl

/-- A silent dialogue that is continued silently is silent. -/
theorem Silent.bind {d : Dialogue α} {f : α → Dialogue β} (hd : d.Silent)
    (hf : ∀ a, (f a).Silent) : (d.bind f).Silent := by
  induction d with
  | done a => exact hf a
  | note n next ih => exact ⟨hd.1, ih hd.2⟩
  | discover t names next ih => exact fun r => ih r (hd r)
  | lookup query next ih => exact fun r => ih r (hd r)

/-- A silent dialogue that is continued silently where it succeeded is silent. -/
theorem Silent.andThen {ε : Type} {d : Dialogue (Except ε α)} {f : α → Dialogue (Except ε β)}
    (hd : d.Silent) (hf : ∀ a, (f a).Silent) : (d.andThen f).Silent := by
  refine hd.bind fun r => ?_
  cases r with
  | ok a => exact hf a
  | error e => trivial

/-- A silent dialogue with a function applied to its result is silent. -/
theorem Silent.map {d : Dialogue α} (hd : d.Silent) (f : α → β) : (d.map f).Silent :=
  hd.bind fun _ => trivial

/-- Asking for resources is silent. -/
theorem silent_ask (t : ResourceType) (names : List String) : (ask t names).Silent :=
  fun _ => trivial

end Dialogue

end SidecarAgent.Discovery

namespace SidecarAgent.Egress

open Telemetry

/-- Pulling egress rules is silent. -/
theorem silent_pull : pull.Silent :=
  (Discovery.Dialogue.silent_ask .cluster []).map _

/-! ## Caches -/

/-- An event is rejected when it brings rules that are not valid. -/
def rejects (e : Config.Event) : Bool :=
  match e.change.value? with
  | some (.egressRules rules) => !(validate rules).isOk
  | some (.endpointSubset _) | some (.raw _) | none => false

namespace Cache

/-- The egress cache measures its size and what it rejects. -/
theorem measureOnly_onEvent (cache : Cache) (e : Config.Event) :
    MeasureOnly [.rejected, .egressRules] (cache.onEvent e).2 := by
  have hsize : MetricFamily.egressRules ∈ [MetricFamily.rejected, .egressRules] := by simp
  unfold onEvent
  split
  · exact .measure_cons hsize .notice
  · split
    · exact .log_cons (.measure_cons hsize .nil)
    · exact .measure_cons List.mem_cons_self (.log_cons .nil)
  · exact .nil

/-- An event leaves the size of the egress cache in the ledger. -/
theorem reading_onEvent {l : Ledger} {cache : Cache} (h : l.reading .egressRules = cache.size)
    (e : Config.Event) :
    (l.enter (cache.onEvent e).2).reading .egressRules = (cache.onEvent e).1.size := by
  unfold onEvent
  split
  · exact l.reading_enter_set .egressRules _ .notice
  · split
    · exact l.reading_enter_set .egressRules _ .nil
    · exact (l.reading_increment .rejected .egressRules).trans h
  · exact h

/-- An event is one more rejection in the ledger if it is rejected. -/
theorem reading_rejected_onEvent (l : Ledger) (cache : Cache) (e : Config.Event) :
    (l.enter (cache.onEvent e).2).reading .rejected =
      l.reading .rejected + if rejects e then 1 else 0 := by
  have hset : ∀ n, (l.record (.set .egressRules n)).reading .rejected = l.reading .rejected :=
    fun n => l.reading_set .egressRules .rejected n
  unfold onEvent
  split
  · rename_i hvalue
    have hrejects : rejects e = false := by
      unfold rejects
      rw [hvalue]
    rw [hrejects]
    exact (Ledger.reading_enter_of_measureOnly _ .notice List.not_mem_nil).trans (hset _)
  · rename_i rules hvalue
    have hrejects : rejects e = !(validate rules).isOk := by
      unfold rejects
      rw [hvalue]
    rw [hrejects]
    split
    · rename_i valid hvalid
      simp only [hvalid]
      exact hset _
    · rename_i fault hvalid
      simp only [hvalid]
      exact (l.reading_increment .rejected .rejected).trans (if_pos rfl)
  · rename_i value hother hvalue
    have hrejects : rejects e = false := by
      unfold rejects
      rw [hvalue]
      cases value with
      | egressRules rules => exact absurd rfl (hother rules)
      | endpointSubset subset => rfl
      | raw bytes => rfl
    rw [hrejects]
    rfl

end Cache

end SidecarAgent.Egress

namespace SidecarAgent.Endpoint

open Config (Snapshot)
open Discovery (Cluster Dialogue)
open Telemetry

/-- Pulling the subsets of clusters is silent: what is noted about their tags is no measurement. -/
theorem silent_pullClusters (previous : Snapshot) (clusters : List Cluster) (s : Snapshot) :
    (pullClusters previous clusters s).Silent := by
  induction clusters generalizing s with
  | nil => trivial
  | cons cluster rest ih =>
    unfold pullClusters
    split
    · exact ih s
    · intro tags
      cases tags with
      | none => exact ⟨rfl, ih _⟩
      | some tags =>
        exact ((Dialogue.silent_ask .loadAssignment [cluster.name]).map _).andThen fun _ => ih _

/-- Pulling subsets is silent. -/
theorem silent_pull (previous : Snapshot) : (pull previous).Silent :=
  (Dialogue.silent_ask .cluster []).andThen fun clusters => silent_pullClusters previous clusters ∅

namespace Cache

/-- A removal measures the size of the endpoint cache. -/
theorem measureOnly_remove (cache : Cache) (e : Config.Event) :
    MeasureOnly [.endpointSubsets] (cache.remove e).2 :=
  .measure_cons List.mem_cons_self .notice

/-- A removal leaves the size of the endpoint cache in the ledger. -/
theorem reading_remove (l : Ledger) (cache : Cache) (e : Config.Event) :
    (l.enter (cache.remove e).2).reading .endpointSubsets = (cache.remove e).1.size :=
  l.reading_enter_set .endpointSubsets _ .notice

/-- The endpoint cache measures its size. -/
theorem measureOnly_onEvent (cache : Cache) (e : Config.Event) :
    MeasureOnly [.endpointSubsets] (cache.onEvent e).2 := by
  unfold onEvent
  split
  · exact cache.measureOnly_remove e
  · split
    · exact cache.measureOnly_remove e
    · exact .measure_cons List.mem_cons_self .nil
  · exact .nil

/-- An event leaves the size of the endpoint cache in the ledger. -/
theorem reading_onEvent {l : Ledger} {cache : Cache} (h : l.reading .endpointSubsets = cache.size)
    (e : Config.Event) :
    (l.enter (cache.onEvent e).2).reading .endpointSubsets = (cache.onEvent e).1.size := by
  unfold onEvent
  split
  · exact reading_remove l cache e
  · split
    · exact reading_remove l cache e
    · exact l.reading_enter_set .endpointSubsets _ .nil
  · exact h

end Cache

end SidecarAgent.Endpoint

namespace SidecarAgent.Config

open Telemetry

/-! ## Sources -/

namespace PolledSource

/-- When a source begins to pull, the time that it takes is measured. -/
theorem measureOnly_beginNotes (s : PolledSource) : MeasureOnly [.refreshTime] s.beginNotes :=
  .measure_cons List.mem_cons_self .nil

/-- When a source has pulled, the time that it took is measured. -/
theorem measureOnly_endNotes (s : PolledSource) : MeasureOnly [.refreshTime] s.endNotes :=
  .measure_cons List.mem_cons_self .nil

/-- A failure is not measured. -/
theorem measureOnly_failureNote (s : PolledSource) (e : SourceError) :
    MeasureOnly [] [s.failureNote e] := by
  unfold failureNote
  split
  · exact .log_cons .nil
  · exact .log_cons .nil

/-- The events that a source reports are counted by their kinds. -/
theorem reading_eventNotes (l : Ledger) (s : PolledSource) (events : List Event)
    (kind : ChangeKind) :
    (l.enter (s.eventNotes events)).reading (.events s.name kind) =
      l.reading (.events s.name kind) + events.countP fun e => e.change.kind = kind := by
  induction events generalizing l with
  | nil => rfl
  | cons e rest ih =>
    show ((l.record (.increment (.events s.name e.change.kind))).enter
      (s.eventNotes rest)).reading _ = _
    rw [ih, Ledger.reading_increment, List.countP_cons]
    by_cases h : e.change.kind = kind
    · subst h
      simp
      omega
    · have hne : Metric.events s.name kind ≠ .events s.name e.change.kind := by
        intro heq
        cases heq
        exact h rfl
      simp [h, hne]

/-- The events that a source reports are not counted for any other source. -/
theorem reading_eventNotes_of_ne (l : Ledger) (s : PolledSource) (events : List Event)
    {name : String} (h : name ≠ s.name) (kind : ChangeKind) :
    (l.enter (s.eventNotes events)).reading (.events name kind) =
      l.reading (.events name kind) := by
  induction events generalizing l with
  | nil => rfl
  | cons e rest ih =>
    have hne : Metric.events name kind ≠ .events s.name e.change.kind := by
      intro heq
      cases heq
      exact h rfl
    exact (ih _).trans (l.reading_record_of_ne hne)

/-- Reported events are measured as such. -/
theorem measureOnly_eventNotes (s : PolledSource) (events : List Event) :
    MeasureOnly [.events] (s.eventNotes events) := by
  induction events with
  | nil => exact .nil
  | cons e rest ih => exact .measure_cons List.mem_cons_self ih

end PolledSource

/-! ## Managers -/

namespace Manager

universe u v

variable {ι : Type u} {lis : Type v}

/-- Adding a source measures nothing. -/
theorem measureOnly_addNotes (name : String) (priority : ℤ) (pulled : Option Snapshot) :
    MeasureOnly [] (addNotes name priority pulled) := by
  cases pulled with
  | none => exact .log_cons (.log_cons .nil)
  | some s => exact .log_cons .nil

/-- Entering an event measures nothing. -/
theorem measureOnly_apply (m : Manager ι lis) (e : Event) : MeasureOnly [] (m.apply e).notes := by
  unfold apply
  split
  · exact .log_cons .nil
  · exact .nil

/-- Entering events measures nothing. -/
theorem measureOnly_applyAll (m : Manager ι lis) (es : List Event) :
    MeasureOnly [] (m.applyAll es).notes := by
  induction es generalizing m with
  | nil => exact .nil
  | cons e rest ih => exact (m.measureOnly_apply e).append (ih _)

/-- Entering answers measures nothing. -/
theorem measureOnly_enterAnswers (m : Manager ι lis) (pulled : List (String × Snapshot))
    (answers : List (String × Answer)) : MeasureOnly [] (m.enterAnswers pulled answers).notes := by
  induction answers generalizing m pulled with
  | nil => exact .nil
  | cons answer rest ih =>
    refine MeasureOnly.append ?_ (ih _ _)
    cases answer.2 with
    | changed events => exact m.measureOnly_applyAll events
    | everything s => exact .nil
    | failed => exact .log_cons .nil

/-- Whatever is done with a manager, it measures nothing. -/
theorem measureOnly_run (m : Manager ι ℕ) (ops : List (Operation ι)) :
    MeasureOnly [] (m.run ops).notes := by
  induction ops generalizing m with
  | nil => exact .nil
  | cons op rest ih =>
    refine MeasureOnly.append ?_ (ih _)
    cases op with
    | listen pattern => exact .nil
    | addSource name priority source pulled => exact measureOnly_addNotes name priority pulled
    | apply e => exact m.measureOnly_apply e
    | refresh answer => exact m.measureOnly_enterAnswers [] _

end Manager

end SidecarAgent.Config
