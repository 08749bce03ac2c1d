import InstanceBroker.Message.Wire
import InstanceBroker.Proofs.Delivery
import InstanceBroker.Proofs.Opening
import InstanceBroker.Service.Scripted

namespace InstanceBroker

variable {World Task : Type} {service : Service World Task}

inductive Family
  | creation | completion | details | listing
deriving DecidableEq

def Operation.Kind.family : Operation.Kind → Family
  | .create => .creation
  | .start | .stop | .quit | .delete => .completion
  | .status => .details
  | .listInstances => .listing

def Payload.family : Payload → Family
  | .created _ => .creation
  | .done => .completion
  | .details _ => .details
  | .instances _ => .listing

def ResultValue.family? : ResultValue → Option Family
  | .progress _ => some .creation
  | .final payload => some payload.family
  | .failed _ => none

def Answer.family? : Answer → Option Family
  | .created _ => some .creation
  | .done => some .completion
  | .details _ => some .details
  | .instances _ => some .listing
  | .started _ | .cancelRequested | .transactions _ => none

def Payload.answer : Payload → Answer
  | .created result => .created result
  | .done => .done
  | .details found => .details found
  | .instances names => .instances names

def ResultValue.answer? : ResultValue → Option Answer
  | .progress result => some (.created result)
  | .final payload => some payload.answer
  | .failed _ => none

@[simp] theorem Payload.family?_answer (payload : Payload) :
    payload.answer.family? = some payload.family := by
  cases payload <;> rfl

theorem ResultValue.family?_answer {value : ResultValue} {answer : Answer}
    (given : value.answer? = some answer) : answer.family? = value.family? := by
  cases value with
  | progress => cases given; rfl
  | final payload => cases given; exact payload.family?_answer
  | failed => cases given

theorem Operation.Kind.family_payload (kind : Operation.Kind) (returned : kind.Returned) :
    (kind.payload returned).family = kind.family := by
  cases kind <;> rfl

theorem Operation.Kind.answer?_eq (kind : Operation.Kind) (payload : Payload) :
    kind.answer? payload = if payload.family = kind.family then some payload.answer else none := by
  cases kind <;> cases payload <;> rfl

inductive Judged (kind : Operation.Kind) (id : TransactionId) : ResultValue → Outcome → Prop
  | own {value : ResultValue} {answer : Answer} (same : value.family? = some kind.family)
      (given : value.answer? = some answer) : Judged kind id value (.ok answer)
  | surprise {value : ResultValue} {family : Family} (of : value.family? = some family)
      (other : family ≠ kind.family) :
      Judged kind id value (.error (.unexpectedResult id kind.expectation))
  | failed {error : OperationError} : Judged kind id (.failed error) (.error (.operation error))

theorem Operation.Kind.judged (kind : Operation.Kind) (id : TransactionId) (value : ResultValue) :
    Judged kind id value (kind.judge id value).outcome := by
  cases value with
  | progress result =>
    by_cases create : kind = .create
    · subst create
      exact .own rfl rfl
    · have other : Family.creation ≠ kind.family := by
        cases kind with
        | create => exact absurd rfl create
        | start | stop | quit | delete | status | listInstances => exact nofun
      rw [judge, if_neg create]
      exact .surprise rfl other
  | final payload =>
    rw [judge, answer?_eq]
    by_cases same : payload.family = kind.family
    · rw [if_pos same]
      exact .own (congrArg some same) rfl
    · rw [if_neg same]
      exact .surprise rfl same
  | failed => exact .failed

/-- A call asked for the operation, and the transaction was opened for it. -/
def OpenedFor (moments : List (Moment World Task)) (id : TransactionId) (operation : Operation) :
    Prop :=
  ∃ moment ∈ moments, ∃ caller call, moment.broker.calls[caller]? = some call ∧
    call.request = .initiate operation ∧ .handled (.start operation caller) ∈ moment.events ∧
    .opened id operation.kind ∈ moment.events

/-- At one of the moments this is what the service wants when it carries on with the operation. -/
def Demanded (service : Service World Task) (moments : List (Moment World Task))
    (id : TransactionId) (operation : Operation)
    (demand : Demand World Task operation.kind) : Prop :=
  ∃ moment ∈ moments, moment.turn = .move (.run id) ∧ ∃ run task,
    moment.broker.run? id = some run ∧ run.operation = operation ∧ run.phase = .working task ∧
    service.step (moment.broker.context id) operation moment.broker.world task = demand

def Reported (service : Service World Task) (moments : List (Moment World Task))
    (id : TransactionId) (operation : Operation) (progress : CreateResult) : Prop :=
  ∃ next isCreate, Demanded service moments id operation (.report progress next isCreate)

def Concluded (service : Service World Task) (moments : List (Moment World Task))
    (id : TransactionId) (operation : Operation)
    (outcome : Except OperationError operation.kind.Returned) : Prop :=
  ∃ world, Demanded service moments id operation (.finish world outcome)

/-- A value is what the service made of the operation: a report on the way or what it ended with. -/
inductive Made (service : Service World Task) (moments : List (Moment World Task))
    (id : TransactionId) (operation : Operation) : ResultValue → Prop
  | reported {progress : CreateResult} (isCreate : operation.kind = .create)
      (reported : Reported service moments id operation progress) :
      Made service moments id operation (.ofProgress progress)
  | concluded {outcome : Except OperationError operation.kind.Returned}
      (concluded : Concluded service moments id operation outcome) :
      Made service moments id operation (.ofOutcome operation.kind outcome)

section Making

variable {moments : List (Moment World Task)} {id : TransactionId} {operation : Operation}
  {value : ResultValue}

theorem Made.family (made : Made service moments id operation value) {family : Family}
    (of : value.family? = some family) : family = operation.kind.family := by
  cases made with
  | reported isCreate =>
    rw [isCreate]
    exact (Option.some.inj of).symm
  | @concluded outcome =>
    cases outcome with
    | error => cases of
    | ok returned =>
      rw [← Option.some.inj of]
      exact operation.kind.family_payload returned

inductive Made.Answers (service : Service World Task) (moments : List (Moment World Task))
    (id : TransactionId) : Operation → Answer → Prop
  | progress {args : CreateArgs} {progress : CreateResult}
      (reported : Reported service moments id (.create args) progress) :
      Answers service moments id (.create args) (.created { progress with finished := false })
  | created {args : CreateArgs} {returned : CreateResult}
      (concluded : Concluded service moments id (.create args) (.ok returned)) :
      Answers service moments id (.create args) (.created { returned with finished := true })
  | done {operation : Operation} {returned : operation.kind.Returned}
      (wordless : operation.kind.family = .completion)
      (concluded : Concluded service moments id operation (.ok returned)) :
      Answers service moments id operation .done
  | details {name : String} {details : InstanceDetails}
      (concluded : Concluded service moments id (.status name) (.ok details)) :
      Answers service moments id (.status name) (.details details)
  | instances {names : List String}
      (concluded : Concluded service moments id .listInstances (.ok names)) :
      Answers service moments id .listInstances (.instances names)

theorem Made.answers (made : Made service moments id operation value) {answer : Answer}
    (given : value.answer? = some answer) : Answers service moments id operation answer := by
  cases made with
  | reported isCreate reported =>
    cases given
    cases operation with
    | create args => exact .progress reported
    | start | stop | quit | delete | status | listInstances => cases isCreate
  | @concluded outcome concluded =>
    cases outcome with
    | error => cases given
    | ok returned =>
      cases given
      cases operation with
      | create => exact .created concluded
      | start | stop | quit | delete => exact .done rfl concluded
      | status => exact .details concluded
      | listInstances => exact .instances concluded

theorem Made.failed {error : OperationError}
    (made : Made service moments id operation (.failed error)) :
    Concluded service moments id operation (.error error) := by
  generalize failure : ResultValue.failed error = value at made
  cases made with
  | reported => cases failure
  | @concluded outcome concluded =>
    cases outcome with
    | error => cases failure; exact concluded
    | ok => cases failure

end Making

namespace Broker

variable {broker after : Broker World Task} {turn : Turn World} {events : List Event}
  {id : TransactionId} {run : Run Task}

theorem Handles.opens {action : Action} (handles : Handles service broker action after events)
    (numbered : broker.table.nextId = broker.runs.length + 1) (missing : broker.run? id = none)
    (found : after.run? id = some run) :
    ∃ caller, action = .start run.operation caller ∧
      .opened id run.operation.kind ∈ events := by
  rcases handles.run_begun numbered missing with none | ⟨operation, caller, rfl, rfl, begun⟩
  · cases none.symm.trans found
  · have asked : run.operation = operation := by
      rcases begun with ⟨begun, _⟩ | begun
      all_goals cases begun.symm.trans found; rfl
    subst asked
    refine ⟨caller, rfl, ?_⟩
    cases handles <;> exact List.mem_cons_self

theorem asked_step (formed : broker.WellFormed)
    (taken : broker.turn? service turn = some (after, events))
    (missing : broker.run? id = none) (found : after.run? id = some run) :
    OpenedFor [⟨broker, turn, events⟩] id run.operation := by
  obtain ⟨_, _, begun⟩ := run_begun taken formed.numbered missing
  cases begun with
  | missing none => cases none.symm.trans found
  | opened head | orphaned head =>
    cases turns_of_turn? taken with
    | dispatched _ dispatches =>
      cases dispatches with
      | stopped =>
        rw [run?_stop, missing] at found
        simp at found
      | @handled action queue _ later _ first handles =>
        have absent : { broker with queue }.run? id = none := missing ▸ broker.run?_congr rfl id
        obtain ⟨caller, rfl, opens⟩ := handles.opens formed.numbered absent found
        obtain ⟨call, there, asks, _⟩ :=
          formed.asked _ (first ▸ List.mem_cons_self) caller rfl
        refine ⟨_, List.mem_singleton.mpr rfl, caller, call, there, ?_, List.mem_cons_self,
          List.mem_cons_of_mem _ opens⟩
        revert asks
        cases call.request <;> simp [Request.action]
      | swept _ idle =>
        rw [head] at idle
        cases idle

theorem made_of_product {value : ResultValue}
    (produced : (Moment.mk broker turn events).product? service id = some value) :
    ∃ run, broker.run? id = some run ∧
      Made service [⟨broker, turn, events⟩] id run.operation value := by
  simp only [Moment.product?] at produced
  split at produced
  · split at produced
    · rename_i same
      subst same
      simp only [product?, Option.bind_eq_bind, Option.bind_eq_some_iff] at produced
      obtain ⟨run, found, produced⟩ := produced
      refine ⟨run, found, ?_⟩
      have demanded {task : Task} {demand : Demand World Task run.operation.kind}
          (working : run.phase = .working task)
          (demands : service.step (broker.context _) run.operation broker.world task = demand) :
          Demanded service [⟨broker, .move (.run _), events⟩] _ run.operation demand :=
        ⟨_, List.mem_singleton.mpr rfl, rfl, run, task, found, rfl, working, demands⟩
      split at produced
      · rename_i task working
        split at produced
        · rename_i progress next isCreate demands
          cases produced
          exact .reported isCreate ⟨next, isCreate, demanded working demands⟩
        · rename_i world outcome demands
          cases produced
          exact .concluded ⟨world, demanded working demands⟩
        · cases produced
        · cases produced
      · cases produced
    · cases produced
  · cases produced

theorem Handles.carries {operation : Operation} {caller : CallId}
    (handles : Handles service broker (.start operation caller) after events)
    (numbered : broker.table.nextId = broker.runs.length + 1) :
    ∃ run, after.run? broker.table.nextId = some run ∧ run.operation = operation := by
  cases handles with
  | opened =>
    rw [run?_setPhase, run?_opening]
    exact ⟨_, if_pos numbered, rfl⟩
  | orphaned =>
    rw [run?_discard, run?_opening, if_pos rfl, if_pos numbered]
    exact ⟨_, rfl, rfl⟩

end Broker

section Kept

variable {first moments : List (Moment World Task)} {id : TransactionId} {operation : Operation}

theorem OpenedFor.mono (opened : OpenedFor first id operation) (among : first ⊆ moments) :
    OpenedFor moments id operation := by
  obtain ⟨moment, there, rest⟩ := opened
  exact ⟨moment, among there, rest⟩

theorem Demanded.mono {demand : Demand World Task operation.kind}
    (demanded : Demanded service first id operation demand) (among : first ⊆ moments) :
    Demanded service moments id operation demand := by
  obtain ⟨moment, there, rest⟩ := demanded
  exact ⟨moment, among there, rest⟩

theorem Made.mono {value : ResultValue} (made : Made service first id operation value)
    (among : first ⊆ moments) : Made service moments id operation value := by
  cases made with
  | reported isCreate reported =>
    obtain ⟨next, creates, demanded⟩ := reported
    exact .reported isCreate ⟨next, creates, demanded.mono among⟩
  | concluded concluded =>
    obtain ⟨world, demanded⟩ := concluded
    exact .concluded ⟨world, demanded.mono among⟩

end Kept

namespace Trace

variable {start last : Broker World Task} {moments : List (Moment World Task)}
  {id : TransactionId} {run : Run Task} {operation : Operation}

theorem operation_kept (trace : Trace service start moments last)
    (found : start.run? id = some run) :
    ∃ next, last.run? id = some next ∧ next.operation = run.operation := by
  induction trace with
  | nil => exact ⟨run, found, rfl⟩
  | snoc _ taken ih =>
    obtain ⟨middle, there, same⟩ := ih
    obtain ⟨next, here, step⟩ := Broker.run_step taken there
    exact ⟨next, here, step.operation_eq.trans same⟩

variable {config : Config} {origin : Timestamp} {world : World} {thrownAway : List TransactionId}

theorem openedFor_of_run
    (trace : Trace service (.fresh config origin world thrownAway) moments last)
    (found : last.run? id = some run) : OpenedFor moments id run.operation := by
  induction trace generalizing run with
  | nil => cases id <;> cases found
  | @snoc moments broker after turn events earlier taken ih =>
    cases before : broker.run? id with
    | none =>
      exact (Broker.asked_step earlier.wellFormed taken before found).mono
        (List.subset_append_right ..)
    | some old =>
      obtain ⟨next, there, step⟩ := Broker.run_step taken before
      cases there.symm.trans found
      rw [step.operation_eq]
      exact (ih before).mono (List.subset_append_left ..)

theorem run_of_openedFor
    (trace : Trace service (.fresh config origin world thrownAway) moments last)
    (opened : OpenedFor moments id operation) :
    ∃ run, last.run? id = some run ∧ run.operation = operation := by
  obtain ⟨moment, among, caller, call, _, _, handled, opens⟩ := opened
  obtain ⟨first, later, after, rfl, before, fired, rest⟩ := trace.split among
  obtain ⟨_, _, _, _, rfl⟩ := Broker.handled_of_opened fired opens
  obtain ⟨_, _, _, _, _, handles⟩ := Broker.handles_of_handled fired handled
  obtain ⟨run, there, carries⟩ := handles.carries before.wellFormed.numbered
  obtain ⟨next, here, same⟩ := rest.operation_kept there
  exact ⟨next, here, same.trans carries⟩

theorem made_of_product
    (trace : Trace service (.fresh config origin world thrownAway) moments last)
    {value : ResultValue} (produced : value ∈ products service id moments) :
    ∃ run, last.run? id = some run ∧ Made service moments id run.operation value := by
  obtain ⟨moment, among, hands⟩ := List.mem_filterMap.mp produced
  obtain ⟨first, later, after, rfl, _, fired, rest⟩ := trace.split among
  obtain ⟨run, found, made⟩ := Broker.made_of_product hands
  obtain ⟨middle, there, step⟩ := Broker.run_step fired found
  obtain ⟨next, here, same⟩ := rest.operation_kept there
  refine ⟨next, here, ?_⟩
  rw [same, step.operation_eq]
  exact made.mono (List.cons_subset.mpr ⟨among, List.nil_subset _⟩)

theorem made_of_took (trace : Trace service (.fresh config origin world thrownAway) moments last)
    {caller : CallId} {value : ResultValue}
    (took : (caller, value) ∈ takes id (history moments)) :
    ∃ operation, OpenedFor moments id operation ∧ Made service moments id operation value := by
  have written : value ∈ writtenTo id (history moments) := by
    rw [← (trace.conservation id).1]
    exact List.mem_append_left _ (List.mem_map.mpr ⟨_, took, rfl⟩)
  have produced := (trace.production id).subset (List.mem_append_left _ written)
  obtain ⟨run, found, made⟩ := trace.made_of_product produced
  exact ⟨run.operation, trace.openedFor_of_run found, made⟩

theorem opener (trace : Trace service (.fresh config origin world thrownAway) moments last)
    {other : Operation} (opened : OpenedFor moments id operation)
    (again : OpenedFor moments id other) : operation = other := by
  obtain ⟨run, found, rfl⟩ := trace.run_of_openedFor opened
  obtain ⟨_, there, rfl⟩ := trace.run_of_openedFor again
  cases found.symm.trans there
  rfl

end Trace

def OperationError.Kind.code : OperationError.Kind → ErrorCode
  | .notFound => .notFound
  | .alreadyExists => .alreadyExists
  | .cancelled => .cancelled
  | .backend => .backend

theorem OperationError.Kind.encode_code (kind : OperationError.Kind) :
    ErrorCode.codec.encode kind.code = OperationError.Kind.codec.encode kind := by
  cases kind <;> rfl

theorem Response.ofOutcome_operation (error : OperationError) :
    Response.ofOutcome (.error (.operation error)) =
      .error error.kind.code ("Operation failed: " ++ error.message) := by
  obtain ⟨kind, message⟩ := error
  cases kind <;> rfl

theorem Fault.code_eq_unexpectedResult {fault : Fault} (code : fault.code = .unexpectedResult) :
    ∃ id expected, fault = .unexpectedResult id expected := by
  cases fault with
  | unexpectedResult id expected => exact ⟨id, expected, rfl⟩
  | operation error =>
    obtain ⟨kind, message⟩ := error
    cases kind <;> cases code
  | cancelled | unknownTransaction | dispatcherClosed | config => cases code

section Judging

variable {kind : Operation.Kind} {id : TransactionId} {value : ResultValue} {outcome : Outcome}

theorem Judged.answers (judged : Judged kind id value outcome) {answer : Answer}
    (answered : Response.ofOutcome outcome = .answer answer) :
    value.answer? = some answer ∧ answer.family? = some kind.family := by
  cases judged with
  | own same given =>
    cases answered
    exact ⟨given, (value.family?_answer given).trans same⟩
  | surprise | failed => cases answered

theorem Judged.gives (judged : Judged kind id value outcome)
    (same : value.family? = some kind.family) :
    ∃ answer, value.answer? = some answer ∧ outcome = .ok answer := by
  cases judged with
  | own _ given => exact ⟨_, given, rfl⟩
  | surprise of other => exact absurd (Option.some.inj (of.symm.trans same)) other
  | failed => cases same

theorem Judged.surprises_iff (judged : Judged kind id value outcome) :
    (∃ message, Response.ofOutcome outcome = .error .unexpectedResult message) ↔
      ∃ family, value.family? = some family ∧ family ≠ kind.family := by
  constructor
  · rintro ⟨message, surprised⟩
    cases judged with
    | own => cases surprised
    | surprise of other => exact ⟨_, of, other⟩
    | failed =>
      obtain ⟨_, _, impossible⟩ :=
        Fault.code_eq_unexpectedResult (Response.error.inj surprised).1
      cases impossible
  · rintro ⟨family, of, other⟩
    cases judged with
    | own same => exact absurd (Option.some.inj (of.symm.trans same)) other
    | surprise => exact ⟨_, rfl⟩
    | failed => cases of

theorem Judged.fails {error : OperationError} (judged : Judged kind id (.failed error) outcome) :
    outcome = .error (.operation error) := by
  cases judged with
  | own _ given => cases given
  | surprise of => cases of
  | failed => rfl

end Judging

/-- The answer to a call for results of a kind agrees with what the transaction was opened for and
with what its service made of that. -/
structure Kindred (service : Service World Task) (moments : List (Moment World Task))
    (caller : CallId) (kind : Operation.Kind) (id : TransactionId) (response : Response) :
    Prop where
  created : ∀ result, response = .answer (.created result) → ∃ args,
    OpenedFor moments id (.create args) ∧
      ((∃ progress, Reported service moments id (.create args) progress ∧
          result = { progress with finished := false }) ∨
        ∃ returned, Concluded service moments id (.create args) (.ok returned) ∧
          result = { returned with finished := true })
  done : response = .answer .done → ∃ operation returned, OpenedFor moments id operation ∧
    operation.kind ∈ [.start, .stop, .quit, .delete] ∧
    Concluded service moments id operation (.ok returned)
  details : ∀ details, response = .answer (.details details) → ∃ name,
    OpenedFor moments id (.status name) ∧
      Concluded service moments id (.status name) (.ok details)
  instances : ∀ names, response = .answer (.instances names) →
    OpenedFor moments id .listInstances ∧ Concluded service moments id .listInstances (.ok names)
  own : ∀ answer, response = .answer answer → answer.family? = some kind.family
  /-- What the call took of its own family is what it is answered with. -/
  forward : ∀ value, (caller, value) ∈ takes id (history moments) →
    value.family? = some kind.family →
    ∃ answer, value.answer? = some answer ∧ response = .answer answer
  failed : ∀ error, (caller, .failed error) ∈ takes id (history moments) →
    response = .error error.kind.code ("Operation failed: " ++ error.message) ∧
      ErrorCode.codec.encode error.kind.code = OperationError.Kind.codec.encode error.kind ∧
      ∃ operation, OpenedFor moments id operation ∧
        Concluded service moments id operation (.error error)
  surprised : (∃ message, response = .error .unexpectedResult message) ↔
    ∃ value family, (caller, value) ∈ takes id (history moments) ∧
      value.family? = some family ∧ family ≠ kind.family
  matching : ∀ operation, OpenedFor moments id operation →
    operation.kind.family = kind.family →
    ∀ message, response ≠ .error .unexpectedResult message
  opener : ∀ operation other, OpenedFor moments id operation → OpenedFor moments id other →
    operation = other

section Answered

variable {config : Config} {origin : Timestamp} {world : World} {thrownAway : List TransactionId}
  {moments : List (Moment World Task)} {last : Broker World Task} {caller : CallId}
  {kind : Operation.Kind} {id : TransactionId} {outcome : Outcome}

theorem kindred_of_barren
    (trace : Trace service (.fresh config origin world thrownAway) moments last)
    (nothing : takenBy caller (history moments) = []) {fault : Fault} (barren : fault.isBarren id) :
    Kindred service moments caller kind id (.ofOutcome (.error fault)) := by
  have untaken (value : ResultValue) : (caller, value) ∉ takes id (history moments) := by
    intro took
    have mine := mem_takenBy.mpr (mem_takes.mp took)
    rw [nothing] at mine
    cases mine
  have unsurprising (message : String) :
      Response.ofOutcome (.error fault) ≠ .error .unexpectedResult message := by
    intro surprising
    have code : fault.code = .unexpectedResult := (Response.error.inj surprising).1
    rcases barren with rfl | rfl | rfl <;> cases code
  constructor
  case created | details | instances | own => intro _ answered; cases answered
  case done => intro answered; cases answered
  case forward => exact fun value took => absurd took (untaken value)
  case failed => exact fun error took => absurd took (untaken _)
  case surprised =>
    constructor
    · rintro ⟨message, surprising⟩
      exact absurd surprising (unsurprising message)
    · rintro ⟨value, _, took, _⟩
      exact absurd took (untaken value)
  case matching => exact fun _ _ _ => unsurprising
  case opener => exact fun _ _ => trace.opener

theorem kindred_of_took
    (trace : Trace service (.fresh config origin world thrownAway) moments last)
    {value : ResultValue} (mine : takenBy caller (history moments) = [(id, value)]) :
    Kindred service moments caller kind id (.ofOutcome (kind.judge id value).outcome) := by
  have taken_iff (other : ResultValue) :
      (caller, other) ∈ takes id (history moments) ↔ other = value := by
    rw [mem_takes, ← mem_takenBy, mine]
    simp
  obtain ⟨operation, opened, made⟩ := trace.made_of_took ((taken_iff value).mpr rfl)
  have judged := kind.judged id value
  generalize (kind.judge id value).outcome = outcome at judged
  have answers {answer : Answer} (answered : Response.ofOutcome outcome = .answer answer) :
      Made.Answers service moments id operation answer :=
    made.answers (judged.answers answered).1
  constructor
  case created =>
    intro result answered
    cases answers answered with
    | progress reported => exact ⟨_, opened, .inl ⟨_, reported, rfl⟩⟩
    | created concluded => exact ⟨_, opened, .inr ⟨_, concluded, rfl⟩⟩
  case done =>
    intro answered
    cases answers answered with
    | done wordless concluded =>
      refine ⟨operation, _, opened, ?_, concluded⟩
      revert wordless
      cases operation.kind <;> simp [Operation.Kind.family]
  case details =>
    intro details answered
    cases answers answered with
    | details concluded => exact ⟨_, opened, concluded⟩
  case instances =>
    intro names answered
    cases answers answered with
    | instances concluded => exact ⟨opened, concluded⟩
  case own => exact fun answer answered => (judged.answers answered).2
  case forward =>
    intro other took same
    cases (taken_iff _).mp took
    obtain ⟨answer, given, gives⟩ := judged.gives same
    exact ⟨answer, given, congrArg Response.ofOutcome gives⟩
  case failed =>
    intro error took
    cases (taken_iff _).mp took
    cases judged.fails
    exact ⟨Response.ofOutcome_operation error, error.kind.encode_code, operation, opened,
      made.failed⟩
  case surprised =>
    rw [judged.surprises_iff]
    constructor
    · rintro ⟨family, of, other⟩
      exact ⟨value, family, (taken_iff value).mpr rfl, of, other⟩
    · rintro ⟨_, family, took, of, other⟩
      cases (taken_iff _).mp took
      exact ⟨family, of, other⟩
  case matching =>
    intro other again same message surprised
    obtain ⟨family, of, apart⟩ := judged.surprises_iff.mp ⟨message, surprised⟩
    rw [trace.opener again opened, ← made.family of] at same
    exact apart same
  case opener => exact fun _ _ => trace.opener

/-- Whoever asks for a result in whatever terms, the answer agrees with the transaction. -/
theorem kindred_of_answered
    (trace : Trace service (.fresh config origin world thrownAway) moments last)
    (answered : last.calls[caller]? =
      some { request := .collect kind id, phase := .answered outcome }) :
    Kindred service moments caller kind id (.ofOutcome outcome) := by
  rcases (trace.account caller).2 _ answered with
    ⟨value, mine, rfl⟩ | ⟨nothing, fault, rfl, barren⟩
  · exact kindred_of_took trace mine
  · exact kindred_of_barren trace nothing barren

end Answered

def humble : Scripted.Script where
  acts := [.line "boot"]
  value := some (.created { finished := false, name := "vm" })

/-- The report of a creation is read as one, its end as details. -/
def misreading : List (Turn Scripted.World) :=
  [.input .startDispatcher, .input (.request (.initiate (.create {}))), .move (.call 0),
    .move .dispatcher, .input (.request (.collect .create 1)), .move (.call 1), .move .dispatcher,
    .input (.request (.collect .status 1)), .move (.call 2), .move .dispatcher, .move (.call 1),
    .move (.call 2), .move (.run 1), .move (.run 1), .move (.run 1), .move (.call 1),
    .move (.run 1), .move (.run 1), .move (.run 1), .move (.call 2), .move (.call 2)]

theorem kindred_misreading : ∃ moments last,
    (Broker.fresh {} ⟨0, 0⟩ {} []).follow? (Scripted.Scripts.service [(1, humble)]) misreading =
      some (moments, last) ∧
    last.calls[1]? = some
      { request := .collect .create 1, phase := .answered (.ok (.created (.progress "boot"))) } ∧
    last.calls[2]? = some
      { request := .collect .status 1
        phase := .answered (.error (.unexpectedResult 1 "instance details")) } ∧
    Kindred (Scripted.Scripts.service [(1, humble)]) moments 1 .create 1
      (.answer (.created { finished := false, name := "", line := some "boot" })) ∧
    Kindred (Scripted.Scripts.service [(1, humble)]) moments 2 .status 1
      (.error .unexpectedResult "Transaction 1 did not produce a instance details result") := by
  have runs : ∃ moments last,
      (Broker.fresh {} ⟨0, 0⟩ {} []).follow?
        (Scripted.Scripts.service [(1, humble)]) misreading = some (moments, last) ∧
      last.calls[1]? = some
        { request := .collect .create 1,
          phase := .answered (.ok (.created (.progress "boot"))) } ∧
      last.calls[2]? = some
        { request := .collect .status 1
          phase := .answered (.error (.unexpectedResult 1 "instance details")) } :=
    ⟨_, _, rfl, rfl, rfl⟩
  obtain ⟨moments, last, followed, first, second⟩ := runs
  exact ⟨moments, last, followed, first, second,
    kindred_of_answered (.of_follow? followed) first,
    kindred_of_answered (.of_follow? followed) second⟩

end InstanceBroker
