import InstanceBroker.Proofs.Creation.Reader
import InstanceBroker.Proofs.Quiescence

namespace InstanceBroker

variable {World Task : Type}

namespace Kept

variable {Item : Type} {keeps : Item → Bool} {items : List Item}

def place (keeps : Item → Bool) (items : List Item) (n : Nat) : Nat := (items.take n).countP keeps

theorem place_cons_succ (first : Item) (n : Nat) :
    place keeps (first :: items) (n + 1) = place keeps items n + if keeps first then 1 else 0 := by
  simp [place, List.countP_cons]

theorem place_congr {Other : Type} {keeps' : Other → Bool} {others : List Other}
    (same : others.map keeps' = items.map keeps) (n : Nat) :
    place keeps' others n = place keeps items n := by
  have counted {Any : Type} (keeps : Any → Bool) (items : List Any) :
      place keeps items n = ((items.map keeps).take n).countP id := by
    rw [place, ← List.map_take, List.countP_map]
    rfl
  rw [counted, same, counted]

theorem getElem?_place {n : Nat} {item : Item} (found : items[n]? = some item)
    (kept : keeps item = true) : (items.filter keeps)[place keeps items n]? = some item := by
  induction items generalizing n with
  | nil => cases found
  | cons first items ih =>
    cases n with
    | zero =>
      cases found
      simp [place, kept]
    | succ n =>
      have there := ih (by simpa using found)
      rw [place_cons_succ]
      cases keeps' : keeps first <;> simp [keeps', there]

theorem place_eq_none {n : Nat} (missing : items[n]? = none) :
    (items.filter keeps)[place keeps items n]? = none := by
  rw [List.getElem?_eq_none_iff] at missing ⊢
  have whole : place keeps items n = (items.filter keeps).length := by
    rw [place, List.take_of_length_le missing, List.countP_eq_length_filter]
  exact Nat.le_of_eq whole.symm

theorem exists_place {m : Nat} {item : Item} (found : (items.filter keeps)[m]? = some item) :
    ∃ n, items[n]? = some item ∧ keeps item = true ∧ place keeps items n = m := by
  induction items generalizing m with
  | nil => cases found
  | cons first items ih =>
    cases kept : keeps first with
    | false =>
      rw [List.filter_cons_of_neg (by simp [kept])] at found
      obtain ⟨n, there, keeps', same⟩ := ih found
      exact ⟨n + 1, there, keeps', by rw [place_cons_succ, same, kept]; rfl⟩
    | true =>
      rw [List.filter_cons_of_pos kept] at found
      cases m with
      | zero =>
        cases found
        exact ⟨0, rfl, kept, rfl⟩
      | succ m =>
        obtain ⟨n, there, keeps', same⟩ := ih (by simpa using found)
        exact ⟨n + 1, there, keeps', by rw [place_cons_succ, same, kept]; rfl⟩

theorem filter_modify {n : Nat} {item : Item} (found : items[n]? = some item)
    (kept : keeps item = true) {change : Item → Item}
    (same : ∀ item, keeps (change item) = keeps item) :
    (items.modify n change).filter keeps =
      (items.filter keeps).modify (place keeps items n) change := by
  induction items generalizing n with
  | nil => cases found
  | cons first items ih =>
    cases n with
    | zero =>
      cases found
      simp [place, kept, same]
    | succ n =>
      have rest := ih (by simpa using found)
      rw [List.modify_succ_cons, place_cons_succ]
      cases keeps' : keeps first <;> simp [keeps', rest]

theorem filter_modify_lost {n : Nat} (lost : ∀ item, items[n]? = some item → keeps item = false)
    {change : Item → Item} (same : ∀ item, keeps (change item) = keeps item) :
    (items.modify n change).filter keeps = items.filter keeps := by
  induction items generalizing n with
  | nil => simp
  | cons first items ih =>
    cases n with
    | zero => simp [same, lost first rfl]
    | succ n =>
      have rest := ih fun item found => lost item (by simpa using found)
      rw [List.modify_succ_cons, List.filter_cons, List.filter_cons, rest]

theorem range_filter (keeps : Item → Bool) (items : List Item) :
    List.range (items.filter keeps).length =
      ((List.range items.length).filter fun n => (items[n]?).any keeps).map
        (place keeps items) := by
  induction items with
  | nil => rfl
  | cons first items ih =>
    have shifted : (fun n => place keeps (first :: items) (n + 1)) =
        (· + if keeps first then 1 else 0) ∘ place keeps items := by
      funext n
      exact place_cons_succ first n
    have later : ((List.range items.length).map Nat.succ).filter
          (fun n => ((first :: items)[n]?).any keeps) =
        ((List.range items.length).filter fun n => (items[n]?).any keeps).map Nat.succ := by
      simp [List.filter_map, Function.comp_def]
    have step : (((List.range items.length).filter fun n => (items[n]?).any keeps).map Nat.succ).map
          (place keeps (first :: items)) =
        (List.range (items.filter keeps).length).map (· + if keeps first then 1 else 0) := by
      rw [ih, List.map_map, List.map_map]
      exact congrArg (List.map · _) shifted
    cases kept : keeps first with
    | false =>
      simp only [kept, Bool.false_eq_true, if_false, Nat.add_zero, List.map_id'] at step
      simp only [List.length_cons, List.range_succ_eq_map, List.filter_cons,
        List.getElem?_cons_zero, Option.any_some, kept, Bool.false_eq_true, if_false, later, step]
    | true =>
      simp only [kept, if_true] at step
      simp only [List.length_cons, List.range_succ_eq_map, List.filter_cons,
        List.getElem?_cons_zero, Option.any_some, kept, if_true, later, List.map_cons, step]
      rfl

end Kept

namespace Table

variable (table : Table)

theorem erase_setState_self (id : TransactionId) (state : TransactionState) :
    (table.setState id state).erase id = table.erase id := by
  simp only [erase, setState, Table.mk.injEq, true_and, List.filter_map]
  have same : ((fun slot : Slot => decide (slot.id ≠ id)) ∘
      fun slot => if slot.id = id then { slot with state } else slot) =
      fun slot => decide (slot.id ≠ id) := by
    funext slot
    simp only [Function.comp]
    split <;> rfl
  rw [same]
  refine (List.map_congr_left fun slot among => ?_).trans (List.map_id _)
  rw [if_neg (by simpa using (List.mem_filter.mp among).2)]
  rfl

theorem erase_setState (id other : TransactionId) (state : TransactionState) :
    (table.setState other state).erase id = (table.erase id).setState other state := by
  simp only [erase, setState, Table.mk.injEq, true_and, List.filter_map]
  refine congrArg (List.map _) (List.filter_congr fun slot _ => ?_)
  simp only [Function.comp]
  split <;> rfl

theorem erase_comm (first second : TransactionId) :
    (table.erase first).erase second = (table.erase second).erase first := by
  simp only [erase, List.filter_filter, Bool.and_comm]

@[simp] theorem erase_erase (id : TransactionId) : (table.erase id).erase id = table.erase id := by
  simp [erase, List.filter_filter]

theorem erase_allocate (id : TransactionId) (kind : Operation.Kind) (createdAt : Timestamp)
    (now : Nat) :
    ((table.erase id).allocate kind createdAt now).erase id =
      (table.allocate kind createdAt now).erase id := by
  simp [erase, allocate, List.filter_filter]

theorem access_erase {id other : TransactionId} (apart : other ≠ id) :
    (table.erase id).access other = (table.access other).map (·.erase id) := by
  simp only [access, find?_erase, if_neg apart]
  cases table.find? other with
  | none => rfl
  | some slot =>
    by_cases cancelled : slot.state = .cancelled
    · simp [cancelled, Except.map]
    · simp [cancelled, Except.map, erase_setState]

end Table

/-- A request that neither reads nor cancels the transaction and does not list it. -/
def Request.spares (id : TransactionId) : Request → Bool
  | .initiate _ => true
  | .collect _ transaction | .cancel transaction => transaction != id
  | .listTransactions => false

def Call.spares (id : TransactionId) (call : Call) : Bool := call.request.spares id

theorem Call.spares_of_holds {call : Call} {id other : TransactionId} (apart : other ≠ id)
    (holds : call.holds other = true) : call.spares id = true := by
  obtain ⟨_, kind, asks⟩ := Call.pending_of_holds holds
  rw [Call.spares, asks]
  simp [Request.spares, apart]

namespace Action

def spares (id : TransactionId) : Action → Bool
  | .start .. => true
  | .getResult transaction _ | .cancel transaction | .complete transaction => transaction != id
  | .inspect _ => false

def renamed (rename : CallId → CallId) : Action → Action
  | .start operation caller => .start operation (rename caller)
  | .getResult transaction caller => .getResult transaction (rename caller)
  | .cancel transaction => .cancel transaction
  | .complete transaction => .complete transaction
  | .inspect caller => .inspect (rename caller)

end Action

@[simp] theorem Request.spares_action (request : Request) (id : TransactionId) (caller : CallId) :
    (request.action caller).spares id = request.spares id := by cases request <;> rfl

@[simp] theorem Request.renamed_action (request : Request) (caller : CallId)
    (rename : CallId → CallId) :
    (request.action caller).renamed rename = request.action (rename caller) := by
  cases request <;> rfl

def Run.blank (run : Run Task) : Run Task := { operation := run.operation, phase := .ended }

namespace Broker

variable {broker : Broker World Task} {id : TransactionId} {wipe : World → World}

def place (broker : Broker World Task) (id : TransactionId) : CallId → CallId :=
  Kept.place (·.spares id) broker.calls

/-- The broker without the transaction; `wipe` takes it out of the world of the service. -/
def blank (broker : Broker World Task) (id : TransactionId) (wipe : World → World) :
    Broker World Task :=
  { broker.mapRun id Run.blank with table := broker.table.erase id, world := wipe broker.world }

def besides (broker : Broker World Task) (id : TransactionId) (wipe : World → World) :
    Broker World Task :=
  { broker.blank id wipe with
    queue := (broker.queue.filter (·.spares id)).map (·.renamed (broker.place id))
    calls := broker.calls.filter (·.spares id) }

theorem besides_frame (broker : Broker World Task) (id : TransactionId) (wipe : World → World) :
    broker.besides id wipe = { broker with
      queue := (broker.queue.filter (·.spares id)).map (·.renamed (broker.place id))
      table := broker.table.erase id
      runs := (broker.mapRun id Run.blank).runs
      calls := broker.calls.filter (·.spares id)
      world := wipe broker.world } := by
  cases id <;> rfl

@[simp] theorem besides_settings (broker : Broker World Task) (id : TransactionId)
    (wipe : World → World) :
    (broker.besides id wipe).config = broker.config ∧
    (broker.besides id wipe).origin = broker.origin ∧
    (broker.besides id wipe).thrownAway = broker.thrownAway ∧
    (broker.besides id wipe).clock = broker.clock ∧
    (broker.besides id wipe).shutdown = broker.shutdown ∧
    (broker.besides id wipe).reachable = broker.reachable ∧
    (broker.besides id wipe).dispatcher = broker.dispatcher ∧
    (broker.besides id wipe).runs.length = broker.runs.length := by
  cases id <;> simp [besides, blank, mapRun]

section Numbers

theorem place_congr {other : Broker World Task} (same : other.requests = broker.requests) :
    other.place id = broker.place id := by
  have spared := congrArg (List.map (·.spares id)) same
  simp only [requests, List.map_map] at spared
  exact funext (Kept.place_congr spared)

@[simp] theorem requests_setPhase (caller : CallId) (phase : Call.Phase) :
    (broker.setPhase caller phase).requests = broker.requests := by
  refine List.ext_getElem? fun other => ?_
  simp only [requests, List.getElem?_map, calls_setPhase]
  split
  · subst_vars
    cases broker.calls[other]? <;> rfl
  · rfl

@[simp] theorem place_setPhase (caller : CallId) (phase : Call.Phase) :
    (broker.setPhase caller phase).place id = broker.place id :=
  place_congr (requests_setPhase caller phase)

@[simp] theorem place_mapRun (other : TransactionId) (change : Run Task → Run Task) :
    (broker.mapRun other change).place id = broker.place id := by
  cases other <;> rfl

theorem calls_besides {caller : CallId} {call : Call} (found : broker.calls[caller]? = some call)
    (spares : call.spares id = true) :
    (broker.besides id wipe).calls[broker.place id caller]? = some call :=
  Kept.getElem?_place found spares

theorem calls_besides_none {caller : CallId} (missing : broker.calls[caller]? = none) :
    (broker.besides id wipe).calls[broker.place id caller]? = none :=
  Kept.place_eq_none missing

end Numbers

section Parts

theorem mapRun_congr {first second : Run Task → Run Task}
    (same : ∀ run, broker.run? id = some run → first run = second run) :
    broker.mapRun id first = broker.mapRun id second := by
  cases found : broker.run? id with
  | none =>
    cases id with
    | zero => rfl
    | succ n =>
      have beyond : broker.runs.length ≤ n := List.getElem?_eq_none_iff.mp found
      simp only [mapRun, List.modify_eq_self beyond]
  | some run =>
    rw [mapRun_eq_const broker found first, same run found, ← mapRun_eq_const broker found second]

theorem besides_mapRun {other : TransactionId} (apart : other ≠ id)
    (change : Run Task → Run Task) :
    (broker.mapRun other change).besides id wipe =
      (broker.besides id wipe).mapRun other change := by
  cases other with
  | zero => rfl
  | succ n =>
    cases id with
    | zero => rfl
    | succ m =>
      have positions : n ≠ m := fun same => apart (congrArg _ same)
      simp only [besides_frame, mapRun]
      rw [List.modify_modify_ne _ _ _ positions]
      rfl

theorem besides_mapRun_self {change : Run Task → Run Task}
    (same : ∀ run, broker.run? id = some run → (change run).operation = run.operation) :
    (broker.mapRun id change).besides id wipe = broker.besides id wipe := by
  cases id with
  | zero => rfl
  | succ n =>
    have runs : ((broker.mapRun (n + 1) change).mapRun (n + 1) Run.blank).runs =
        (broker.mapRun (n + 1) Run.blank).runs := by
      rw [mapRun_mapRun]
      refine congrArg Broker.runs (mapRun_congr fun run found => ?_)
      simp only [Function.comp, Run.blank, same run found]
    rw [besides_frame, runs, besides_frame]
    rfl

theorem besides_setPhase {caller : CallId} {call : Call} (found : broker.calls[caller]? = some call)
    (spares : call.spares id = true) (phase : Call.Phase) :
    (broker.setPhase caller phase).besides id wipe =
      (broker.besides id wipe).setPhase (broker.place id caller) phase := by
  have calls : (broker.setPhase caller phase).calls.filter (·.spares id) =
      (broker.calls.filter (·.spares id)).modify (broker.place id caller) ({ · with phase }) :=
    Kept.filter_modify found spares fun _ => rfl
  rw [besides_frame, calls, place_setPhase, besides_frame]
  cases id <;> rfl

theorem besides_setPhase_lost {caller : CallId}
    (lost : ∀ call, broker.calls[caller]? = some call → call.spares id = false)
    (phase : Call.Phase) :
    (broker.setPhase caller phase).besides id wipe = broker.besides id wipe := by
  have calls : (broker.setPhase caller phase).calls.filter (·.spares id) =
      broker.calls.filter (·.spares id) := Kept.filter_modify_lost lost fun _ => rfl
  rw [besides_frame, calls, place_setPhase, besides_frame]
  cases id <;> rfl

theorem besides_withTable (table : Table) :
    ({ broker with table }).besides id wipe =
      { broker.besides id wipe with table := table.erase id } := by cases id <;> rfl

theorem besides_withWorld (world : World) :
    ({ broker with world }).besides id wipe =
      { broker.besides id wipe with world := wipe world } := by cases id <;> rfl

theorem besides_withQueue (queue : List Action) :
    ({ broker with queue }).besides id wipe = { broker.besides id wipe with
      queue := (queue.filter (·.spares id)).map (·.renamed (broker.place id)) } := by
  cases id <;> rfl

end Parts

section Reading

theorem world_besides : (broker.besides id wipe).world = wipe broker.world := by
  rw [besides_frame]

theorem table_besides : (broker.besides id wipe).table = broker.table.erase id := by
  rw [besides_frame]

theorem nextId_besides : (broker.besides id wipe).table.nextId = broker.table.nextId := by
  rw [table_besides]
  rfl

@[simp] theorem run?_besides {other : TransactionId} (apart : other ≠ id) :
    (broker.besides id wipe).run? other = broker.run? other := by
  have same : (broker.besides id wipe).run? other = (broker.mapRun id Run.blank).run? other :=
    run?_congr _ (by rw [besides_frame]) other
  rw [same, run?_mapRun, if_neg apart]

theorem run?_besides_self :
    (broker.besides id wipe).run? id = (broker.run? id).map Run.blank := by
  have same : (broker.besides id wipe).run? id = (broker.mapRun id Run.blank).run? id :=
    run?_congr _ (by rw [besides_frame]) id
  rw [same, run?_mapRun, if_pos rfl]

theorem isCancelled_besides {other : TransactionId} (apart : other ≠ id) :
    (broker.besides id wipe).isCancelled other = broker.isCancelled other := by
  rw [isCancelled, run?_besides apart, besides_frame, isCancelled]

theorem find?_besides {other : TransactionId} (apart : other ≠ id) :
    (broker.besides id wipe).table.find? other = broker.table.find? other := by
  rw [besides_frame, Table.find?_erase, if_neg apart]

theorem isLive_besides {other : TransactionId} (apart : other ≠ id) :
    (broker.besides id wipe).table.isLive other = broker.table.isLive other := by
  rw [Table.isLive, find?_besides apart, Table.isLive]

theorem isWanted_besides {other : TransactionId} (apart : other ≠ id) :
    (broker.besides id wipe).isWanted other = broker.isWanted other := by
  have holders : (broker.besides id wipe).calls.any (·.holds other) =
      broker.calls.any (·.holds other) := by
    rw [besides_frame, List.any_filter]
    refine congrArg (broker.calls.any ·) (funext fun call => ?_)
    cases holds : call.holds other with
    | false => simp
    | true => simp [Call.spares_of_holds apart holds]
  rw [isWanted, isLive_besides apart, holders, isWanted]

theorem room_besides (room : broker.hasRoom = true) :
    (broker.besides id wipe).hasRoom = true := by
  rw [besides_frame]
  simp only [hasRoom, List.length_map, decide_eq_true_eq] at room ⊢
  exact Nat.lt_of_le_of_lt (List.length_filter_le ..) room

end Reading

end Broker

end InstanceBroker
