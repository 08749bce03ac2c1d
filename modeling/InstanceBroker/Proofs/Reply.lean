import InstanceBroker.Proofs.Dialog
import InstanceBroker.Proofs.Json.Grammar
import InstanceBroker.Proofs.Quiescence
import Mathlib.Data.List.Forall2

namespace InstanceBroker

open Json (inBraces inQuotes)

variable {World Task : Type} {service : Service World Task}

namespace Server

abbrev TextFrame := String × CallId

def Exchange.frame? (exchange : Exchange World Task) : Option TextFrame :=
  match exchange.happening with
  | .message (.text text) => some (text, exchange.state.broker.calls.length)
  | _ => none

def frames (exchanges : List (Exchange World Task)) : List TextFrame :=
  exchanges.filterMap (·.frame?)

theorem frames_snoc (exchanges : List (Exchange World Task)) (exchange : Exchange World Task) :
    frames (exchanges ++ [exchange]) = frames exchanges ++ exchange.frame?.toList := by
  cases asked : exchange.frame? <;> simp [frames, asked]

theorem frame?_wordless {state : State World Task} {happening : Happening World}
    (wordless : ∀ text, happening ≠ .message (.text text)) :
    (Exchange.mk state happening).frame? = none := by
  unfold Exchange.frame?
  split
  · rename_i text same
    exact absurd same (wordless text)
  · rfl

theorem replies_eq (owners : List Owner) (connection : Nat) (events : List Event) :
    replies owners connection events = (answers events).filterMap fun answer =>
      match owners[answer.1]? with
      | some owner =>
        if owner.connection = connection then
          some { id := some owner.id, response := .ofOutcome answer.2 }
        else none
      | none => none := by
  simp only [replies, answers, List.filterMap_filterMap]
  congr 1
  funext event
  cases event <;> rfl

namespace State

variable {state after : State World Task}

def replyTo? (state : State World Task) (frame : TextFrame) : Option Reply :=
  match Envelope.ofFrame frame.1 with
  | .error reply => some reply
  | .ok envelope => (state.broker.given? frame.2).map fun outcome =>
    { id := some envelope.id, response := .ofOutcome outcome }

theorem replyTo?_congr {frame : TextFrame}
    (same : ∀ envelope, Envelope.ofFrame frame.1 = .ok envelope →
      after.broker.given? frame.2 = state.broker.given? frame.2) :
    after.replyTo? frame = state.replyTo? frame := by
  unfold replyTo?
  split
  · rfl
  · rename_i envelope readable
    rw [same envelope readable]

/-- The frames that are requests are entered as calls of the connection, and these are all. -/
structure Books (state : State World Task) (frames : List TextFrame) : Prop where
  entered : ∀ (n : Nat) text caller envelope, frames[n]? = some (text, caller) →
    Envelope.ofFrame text = .ok envelope →
    state.owners[caller]? = some { connection := state.connection, id := envelope.id } ∧
      ∃ phase, state.broker.calls[caller]? = some { request := envelope.request, phase }
  backed : ∀ (caller : CallId) owner, state.owners[caller]? = some owner →
    owner.connection = state.connection →
    ∃ (n : Nat) (text : String) (envelope : Envelope), frames[n]? = some (text, caller) ∧
      Envelope.ofFrame text = .ok envelope
  distinct : ∀ (m n : Nat) text text' caller envelope envelope',
    frames[m]? = some (text, caller) → frames[n]? = some (text', caller) →
    Envelope.ofFrame text = .ok envelope → Envelope.ofFrame text' = .ok envelope' → m = n

def done (state : State World Task) (frames : List TextFrame) (n : Nat) : Option Reply :=
  (frames[n]?).bind state.replyTo?

/-- These are the numbers of the frames that the replies answer, one after the other. -/
structure Pairs (done : Nat → Option Reply) (order : List Nat) (inbox : List Reply) : Prop where
  once : order.Nodup
  answering : order.map done = inbox.map some
  complete : ∀ n reply, done n = some reply → n ∈ order

theorem Pairs.answer {done done' : Nat → Option Reply} {order : List Nat} {inbox : List Reply}
    (pairs : Pairs done order inbox) {n : Nat} {reply : Reply} (unanswered : done n = none)
    (answered : done' n = some reply) (others : ∀ m, m ≠ n → done' m = done m) :
    Pairs done' (order ++ [n]) (inbox ++ [reply]) := by
  have new : n ∉ order := by
    intro among
    have replied : done n ∈ inbox.map some := pairs.answering ▸ List.mem_map_of_mem among
    rw [unanswered] at replied
    simp at replied
  have still : order.map done' = order.map done :=
    List.map_congr_left fun m among => others m fun equal => new (equal ▸ among)
  refine ⟨?_, ?_, fun m other replied => ?_⟩
  · rw [List.nodup_append]
    refine ⟨pairs.once, by simp, fun m among last singled => ?_⟩
    rw [List.mem_singleton.mp singled]
    rintro rfl
    exact new among
  · simp only [List.map_append, still, pairs.answering, List.map_cons, List.map_nil, answered]
  · by_cases equal : m = n
    · exact List.mem_append_right _ (List.mem_singleton.mpr equal)
    · exact List.mem_append_left _ (pairs.complete m other (others m equal ▸ replied))

theorem given?_ask (serving : state.Serving) (connection : Nat) (envelope : Envelope)
    (caller : CallId) :
    (state.ask connection envelope).broker.given? caller = state.broker.given? caller := by
  rw [broker_ask serving.reachable, Broker.given?, Broker.given?, List.getElem?_append]
  split
  · rfl
  · rename_i beyond
    rw [List.getElem?_eq_none (Nat.le_of_not_lt beyond), List.getElem?_singleton]
    split <;> rfl

theorem replies_answer {owners : List Owner} (connection : Nat) {events : List Event}
    {caller : CallId} {outcome : Outcome} {owner : Owner}
    (answered : answers events = [(caller, outcome)]) (found : owners[caller]? = some owner) :
    replies owners connection events =
      if owner.connection = connection then
        [{ id := some owner.id, response := .ofOutcome outcome }]
      else [] := by
  by_cases own : owner.connection = connection <;> simp [replies_eq, answered, found, own]

theorem done_congr {frames : List TextFrame} {n : Nat}
    (same : ∀ text caller envelope, frames[n]? = some (text, caller) →
      Envelope.ofFrame text = .ok envelope →
      after.broker.given? caller = state.broker.given? caller) :
    after.done frames n = state.done frames n := by
  unfold done
  cases found : frames[n]? with
  | none => rfl
  | some frame =>
    exact replyTo?_congr fun envelope readable => same frame.1 frame.2 envelope found readable

theorem done_beyond {frames : List TextFrame} {n : Nat} (beyond : frames.length ≤ n) :
    state.done frames n = none := by
  rw [done, List.getElem?_eq_none beyond]
  rfl

theorem done_ask {frames : List TextFrame} (serving : state.Serving) (connection : Nat)
    (envelope : Envelope) : (state.ask connection envelope).done frames = state.done frames := by
  funext n
  exact done_congr fun _ caller _ _ _ => given?_ask serving connection envelope caller

theorem done_snoc {frames : List TextFrame} {frame : TextFrame} {n : Nat}
    (apart : n ≠ frames.length) : state.done (frames ++ [frame]) n = state.done frames n := by
  rcases Nat.lt_or_gt_of_ne apart with old | beyond
  · rw [done, List.getElem?_append_left old, done]
  · rw [done_beyond (Nat.le_of_lt beyond), done_beyond]
    rw [List.length_append, List.length_singleton]
    exact beyond

theorem done_asked {frames : List TextFrame} {text : String} {envelope : Envelope}
    (readable : Envelope.ofFrame text = .ok envelope) :
    state.done (frames ++ [(text, state.broker.calls.length)]) = state.done frames := by
  funext n
  by_cases last : n = frames.length
  · rw [last, done_beyond (Nat.le_refl _), done, List.getElem?_concat_length]
    simp [replyTo?, readable, Broker.given?]
  · exact done_snoc last

theorem pairs_refused {frames : List TextFrame} {order : List Nat}
    (pairs : Pairs (state.done frames) order state.inbox) {text : String} {reply : Reply}
    (unreadable : Envelope.ofFrame text = .error reply) (caller : CallId) :
    Pairs (state.done (frames ++ [(text, caller)])) (order ++ [frames.length])
      (state.inbox ++ [reply]) := by
  refine pairs.answer (done_beyond (Nat.le_refl _)) ?_ fun _ => done_snoc
  simp only [done, List.getElem?_concat_length, Option.bind_some, replyTo?, unreadable]

theorem pairs_deliver {frames : List TextFrame} {order : List Nat} (serving : state.Serving)
    (books : state.Books frames) (pairs : Pairs (state.done frames) order state.inbox)
    {move : Move} {broker : Broker World Task} {events : List Event}
    (fired : state.broker.fire? service move = some (broker, events)) :
    ∃ order', Pairs ((state.deliver (broker, events)).done frames) order'
      (state.deliver (broker, events)).inbox := by
  rcases Broker.given_step fired with
    ⟨silent, same⟩ | ⟨caller, outcome, answered, unanswered, ⟨call, asks⟩, given⟩
  · have quiet : replies state.owners state.connection events = [] := by
      rw [replies_eq, silent, List.filterMap_nil]
    refine ⟨order, ?_⟩
    have equal : (state.deliver (broker, events)).done frames = state.done frames :=
      funext fun n => done_congr fun _ caller _ _ _ => same caller
    rw [equal, deliver, quiet, List.append_nil]
    exact pairs
  · have bound : caller < state.owners.length := by
      rw [serving.owned]
      exact (List.getElem?_eq_some_iff.mp asks).1
    have owns : state.owners[caller]? = some state.owners[caller] := List.getElem?_eq_getElem bound
    have quiet := replies_answer state.connection answered owns
    have others {n : Nat} (apart : ∀ text envelope, frames[n]? = some (text, caller) →
        Envelope.ofFrame text ≠ .ok envelope) :
        (state.deliver (broker, events)).done frames n = state.done frames n := by
      refine done_congr fun text other envelope found readable => (given other).trans (if_neg ?_)
      rintro rfl
      exact apart text envelope found readable
    by_cases own : state.owners[caller].connection = state.connection
    · obtain ⟨n, text, envelope, found, readable⟩ := books.backed caller _ owns own
      have same := Option.some.inj (owns.symm.trans (books.entered n _ _ _ found readable).1)
      have before : state.done frames n = none := by
        simp only [done, found, Option.bind_some, replyTo?, readable, unanswered, Option.map_none]
      have now : (state.deliver (broker, events)).done frames n =
          some { id := some state.owners[caller].id, response := .ofOutcome outcome } := by
        simp only [done, found, Option.bind_some, replyTo?, readable, deliver, given, if_true,
          Option.map_some, same]
      refine ⟨order ++ [n], ?_⟩
      rw [deliver, quiet, if_pos own]
      refine pairs.answer before now fun m apart => others fun _ _ found' readable' => ?_
      exact apart (books.distinct m n _ _ _ _ _ found' found readable' readable)
    · refine ⟨order, ?_⟩
      have equal : (state.deliver (broker, events)).done frames = state.done frames := by
        refine funext fun n => others fun text envelope found readable => own ?_
        have same := Option.some.inj (owns.symm.trans (books.entered n _ _ _ found readable).1)
        rw [same]
      rw [equal, deliver, quiet, if_neg own, List.append_nil]
      exact pairs

theorem pairs_step {frames : List TextFrame} {order : List Nat} (serving : state.Serving)
    (books : state.Books frames) (pairs : Pairs (state.done frames) order state.inbox)
    {happening : Happening World} (taken : state.happen? service happening = some after) :
    ∃ order', Pairs (after.done (frames ++ (Exchange.mk state happening).frame?.toList)) order'
      after.inbox := by
  -- All but a text frame of the connection leave the frames as they were.
  have still (wordless : ∀ text, happening ≠ .message (.text text)) :
      frames ++ (Exchange.mk state happening).frame?.toList = frames := by
    rw [frame?_wordless wordless, Option.toList_none, List.append_nil]
  cases happens_of_happen? taken with
  | refused unreadable => exact ⟨_, pairs_refused pairs unreadable _⟩
  | @asked text envelope readable =>
    refine ⟨order, ?_⟩
    rw [done_ask serving, Exchange.frame?, Option.toList_some, done_asked readable]
    exact pairs
  | @askedElsewhere connection _ envelope =>
    rw [still fun _ same => by cases same]
    refine ⟨order, ?_⟩
    rw [done_ask serving]
    exact pairs
  | ignored wordless =>
    rw [still wordless]
    exact ⟨order, pairs⟩
  | moved fired =>
    rw [still fun _ same => by cases same]
    exact pairs_deliver serving books pairs fired
  | @passed _ _ broker wordless _ calls =>
    rw [still wordless]
    have equal : ({ state with broker } : State World Task).done frames = state.done frames :=
      funext fun n => done_congr fun _ _ _ _ _ => by simp only [Broker.given?, calls]
    refine ⟨order, ?_⟩
    rw [equal]
    exact pairs

theorem Books.later {frames more : List TextFrame} (books : state.Books frames)
    (connection : after.connection = state.connection)
    (owners : ∀ (caller : CallId) owner, state.owners[caller]? = some owner →
      after.owners[caller]? = some owner)
    (calls : ∀ (caller : CallId) request phase,
      state.broker.calls[caller]? = some { request, phase } →
      ∃ phase, after.broker.calls[caller]? = some { request, phase })
    (single : more.length ≤ 1)
    (entered : ∀ text caller envelope, (text, caller) ∈ more →
      Envelope.ofFrame text = .ok envelope → caller = state.owners.length ∧
        after.owners[caller]? = some { connection := after.connection, id := envelope.id } ∧
        ∃ phase, after.broker.calls[caller]? = some { request := envelope.request, phase })
    (backed : ∀ (caller : CallId) owner, after.owners[caller]? = some owner →
      owner.connection = state.connection → state.owners[caller]? = some owner ∨
        ∃ text envelope, (text, caller) ∈ more ∧ Envelope.ofFrame text = .ok envelope) :
    after.Books (frames ++ more) := by
  have new {n : Nat} {frame : TextFrame} (beyond : frames.length ≤ n)
      (found : (frames ++ more)[n]? = some frame) : frame ∈ more ∧ n = frames.length := by
    rw [List.getElem?_append_right beyond] at found
    obtain ⟨within, _⟩ := List.getElem?_eq_some_iff.mp found
    exact ⟨List.mem_of_getElem? found, by omega⟩
  have old {n : Nat} (before : n < frames.length) : (frames ++ more)[n]? = frames[n]? :=
    List.getElem?_append_left before
  have apart {text text' : String} {caller : CallId} {envelope envelope' : Envelope} {m : Nat}
      (found : frames[m]? = some (text, caller)) (readable : Envelope.ofFrame text = .ok envelope)
      (among : (text', caller) ∈ more) (readable' : Envelope.ofFrame text' = .ok envelope') :
      False := by
    obtain ⟨equal, _⟩ := entered _ _ _ among readable'
    obtain ⟨owned, _⟩ := books.entered m _ _ _ found readable
    exact absurd (List.getElem?_eq_some_iff.mp owned).1 (equal ▸ Nat.lt_irrefl _)
  constructor
  case entered =>
    intro n text caller envelope found readable
    by_cases before : n < frames.length
    · obtain ⟨owned, phase, made⟩ := books.entered n _ _ _ (old before ▸ found) readable
      rw [connection]
      exact ⟨owners caller _ owned, calls caller _ phase made⟩
    · exact (entered _ _ _ (new (Nat.le_of_not_lt before) found).1 readable).2
  case backed =>
    intro caller owner owned own
    rw [connection] at own
    rcases backed caller owner owned own with before | ⟨text, envelope, among, readable⟩
    · obtain ⟨n, text, envelope, found, readable⟩ := books.backed caller owner before own
      have within := (List.getElem?_eq_some_iff.mp found).1
      exact ⟨n, text, envelope, (old within).trans found, readable⟩
    · obtain ⟨n, there⟩ := List.mem_iff_getElem?.mp among
      refine ⟨frames.length + n, text, envelope, ?_, readable⟩
      rw [List.getElem?_append_right (Nat.le_add_right ..), Nat.add_sub_cancel_left]
      exact there
  case distinct =>
    intro m n text text' caller envelope envelope' first second readable readable'
    by_cases before : m < frames.length
    · by_cases before' : n < frames.length
      · exact books.distinct m n _ _ _ _ _ (old before ▸ first) (old before' ▸ second) readable
          readable'
      · exact (apart (old before ▸ first) readable (new (Nat.le_of_not_lt before') second).1
          readable').elim
    · by_cases before' : n < frames.length
      · exact (apart (old before' ▸ second) readable' (new (Nat.le_of_not_lt before) first).1
          readable).elim
      · rw [(new (Nat.le_of_not_lt before) first).2, (new (Nat.le_of_not_lt before') second).2]

theorem Books.ask {frames more : List TextFrame} (books : state.Books frames)
    (serving : state.Serving) (connection : Nat) (envelope : Envelope) (single : more.length ≤ 1)
    (own : connection = state.connection ↔ more ≠ [])
    (entry : ∀ frame ∈ more,
      frame.2 = state.broker.calls.length ∧ Envelope.ofFrame frame.1 = .ok envelope) :
    (state.ask connection envelope).Books (frames ++ more) := by
  have owners : (state.ask connection envelope).owners =
      state.owners ++ [{ connection, id := envelope.id }] := rfl
  have broker := broker_ask serving.reachable connection envelope
  refine books.later rfl (fun caller owner owned => ?_) (fun caller request phase made => ?_) single
    (fun text caller envelope' among readable => ?_) fun caller owner owned mine => ?_
  · rw [owners, List.getElem?_append_left (List.getElem?_eq_some_iff.mp owned).1]
    exact owned
  · rw [broker, List.getElem?_append_left (List.getElem?_eq_some_iff.mp made).1]
    exact ⟨phase, made⟩
  · obtain ⟨last, readable'⟩ := entry _ among
    cases readable.symm.trans readable'
    have mine := own.mpr (List.ne_nil_of_mem among)
    dsimp only at last
    subst last
    refine ⟨serving.owned.symm, ?_, .submitting, ?_⟩
    · rw [owners, ← serving.owned, List.getElem?_concat_length, mine]
      rfl
    · rw [broker, List.getElem?_concat_length]
  · rw [owners] at owned
    by_cases before : caller < state.owners.length
    · rw [List.getElem?_append_left before] at owned
      exact .inl owned
    · have last : caller = state.owners.length := by
        have within := (List.getElem?_eq_some_iff.mp owned).1
        rw [List.length_append, List.length_singleton] at within
        exact Nat.le_antisymm (Nat.le_of_lt_succ within) (Nat.le_of_not_lt before)
      subst last
      rw [List.getElem?_concat_length] at owned
      cases owned
      obtain ⟨frame, among⟩ := List.exists_mem_of_ne_nil _ (own.mp mine)
      obtain ⟨last, readable⟩ := entry frame among
      refine .inr ⟨frame.1, envelope, ?_, readable⟩
      rw [serving.owned, ← last]
      exact among

theorem books_step {frames : List TextFrame} (serving : state.Serving)
    (books : state.Books frames) {happening : Happening World}
    (taken : state.happen? service happening = some after) :
    after.Books (frames ++ (Exchange.mk state happening).frame?.toList) := by
  cases happens_of_happen? taken with
  | @refused text reply unreadable =>
    refine books.later rfl (fun _ _ owned => owned) (fun _ _ phase made => ⟨phase, made⟩)
      (Nat.le_refl _) (fun text' caller envelope among readable => ?_) fun _ _ owned _ => .inl owned
    cases List.mem_singleton.mp among
    rw [unreadable] at readable
    cases readable
  | asked readable =>
    refine books.ask serving _ _ (Nat.le_refl _) (by simp [Exchange.frame?]) fun frame among => ?_
    cases List.mem_singleton.mp among
    exact ⟨rfl, readable⟩
  | askedElsewhere apart =>
    exact books.ask serving _ _ (Nat.zero_le _)
      ⟨fun own => absurd own apart, fun more => (more rfl).elim⟩ nofun
  | ignored wordless =>
    rw [frame?_wordless wordless, Option.toList_none, List.append_nil]
    exact books
  | @moved move broker events fired =>
    have taken : state.broker.turn? service (.move move) = some (broker, events) := fired
    refine books.later rfl (fun _ _ owned => owned) (fun caller request phase made => ?_)
      (Nat.zero_le _) nofun fun _ _ owned _ => .inl owned
    obtain ⟨next, there, _⟩ := Broker.call_step taken made
    exact ⟨next, there⟩
  | passed wordless _ calls =>
    rw [frame?_wordless wordless, Option.toList_none]
    refine books.later rfl (fun _ _ owned => owned)
      (fun caller request phase made => ⟨phase, ?_⟩)
      (Nat.zero_le _) nofun fun _ _ owned _ => .inl owned
    rw [calls]
    exact made

end State

inductive State.Answers (state : State World Task) : TextFrame → Reply → Prop
  | answered {text : String} {caller : CallId} {envelope : Envelope} {outcome : Outcome}
      (readable : Envelope.codec.read text = .ok envelope)
      (answered : state.broker.calls[caller]? =
        some { request := envelope.request, phase := .answered outcome }) :
      Answers state (text, caller) { id := some envelope.id, response := .ofOutcome outcome }
  | refused {text : String} {caller : CallId} {problem : Json.Problem}
      (unreadable : Envelope.codec.read text = .error problem) :
      Answers state (text, caller)
        { id := Json.naturalMember? "id" text
          response := .invalidRequest ("Invalid request format: " ++ problem.text) }

structure State.Blocks (state : State World Task) (frame : TextFrame) (envelope : Envelope)
    (kind : Operation.Kind) (id : TransactionId) (call : Call) (run : Run Task) : Prop where
  readable : Envelope.codec.read frame.1 = .ok envelope
  request : envelope.request = .collect kind id
  made : state.broker.calls[frame.2]? = some call
  reads : state.broker.Reads call kind id run
  uncancelled : state.broker.isCancelled id = false

def Exchange.isMute (exchange : Exchange World Task) : Bool :=
  match exchange.happening with
  | .message (.binary _) | .message (.ping _) => true
  | _ => false

/-- The replies on a connection: each answers a frame of its own, and once the broker has settled
nothing is left unanswered but what waits for a result, whatever came in before. -/
structure Replied (service : Service World Task) (start : State World Task)
    (exchanges : List (Exchange World Task)) (last : State World Task) : Prop where
  paired : ∃ order : List Nat, order.Nodup ∧
    List.Forall₂ (fun n reply => ∃ frame, (frames exchanges)[n]? = some frame ∧
      last.Answers frame reply) order last.inbox ∧
    (last.broker.Settled service → ∀ n frame, (frames exchanges)[n]? = some frame →
      n ∉ order →
      ∃ envelope kind id call run, last.Blocks frame envelope kind id call run)
  /-- Without binary and ping frames everything goes the same way. -/
  mute : Dialog service start (exchanges.filter (!·.isMute)) last

namespace Dialog

variable {start last : State World Task} {exchanges : List (Exchange World Task)}

theorem books (dialog : Dialog service start exchanges last) (serving : start.Serving)
    (books : start.Books []) : last.Books (frames exchanges) := by
  induction dialog with
  | nil => exact books
  | snoc earlier taken ih =>
    rw [frames_snoc]
    exact State.books_step (earlier.serving serving) ih taken

theorem pairs (dialog : Dialog service start exchanges last) (serving : start.Serving)
    (books : start.Books []) (silent : start.inbox = []) :
    ∃ order, State.Pairs (last.done (frames exchanges)) order last.inbox := by
  induction dialog with
  | nil =>
    refine ⟨[], .nil, by rw [silent]; rfl, fun n reply replied => ?_⟩
    rw [State.done_beyond (Nat.zero_le n)] at replied
    cases replied
  | snoc earlier taken ih =>
    obtain ⟨order, pairs⟩ := ih
    rw [frames_snoc]
    exact State.pairs_step (earlier.serving serving) (earlier.books serving books) pairs taken

theorem mute (dialog : Dialog service start exchanges last) :
    Dialog service start (exchanges.filter (!·.isMute)) last := by
  induction dialog with
  | nil => exact .nil
  | @snoc exchanges state after happening _ taken ih =>
    rw [List.filter_append]
    cases muted : (Exchange.mk state happening).isMute with
    | false =>
      rw [List.filter_singleton, muted]
      exact ih.snoc taken
    | true =>
      have same : after = state := by
        unfold Exchange.isMute at muted
        split at muted
        · rename_i spoken
          subst spoken
          cases taken
          rfl
        · rename_i spoken
          subst spoken
          cases taken
          rfl
        · cases muted
      rw [List.filter_singleton, muted, same]
      simpa using ih

end Dialog

theorem ofFrame_cases (text : String) :
    (∃ envelope, Envelope.codec.read text = .ok envelope ∧
      Envelope.ofFrame text = .ok envelope) ∨
      ∃ problem, Envelope.codec.read text = .error problem ∧
        Envelope.ofFrame text = .error
          { id := Json.naturalMember? "id" text
            response := .invalidRequest ("Invalid request format: " ++ problem.text) } := by
  unfold Envelope.ofFrame
  cases Envelope.codec.read text with
  | ok envelope => exact .inl ⟨envelope, rfl, rfl⟩
  | error problem => exact .inr ⟨problem, rfl, rfl⟩

namespace State

variable {state : State World Task}

theorem answers_of_done {frames : List TextFrame} (books : state.Books frames) {n : Nat}
    {reply : Reply} (replied : state.done frames n = some reply) :
    ∃ frame, frames[n]? = some frame ∧ state.Answers frame reply := by
  obtain ⟨⟨text, caller⟩, found, replied⟩ := Option.bind_eq_some_iff.mp replied
  refine ⟨_, found, ?_⟩
  rcases ofFrame_cases text with
    ⟨envelope, readable, framed⟩ | ⟨problem, unreadable, framed⟩
  · obtain ⟨_, phase, made⟩ := books.entered n _ _ _ found framed
    simp only [replyTo?, framed, Broker.given?, made, Option.bind_some] at replied
    obtain ⟨outcome, given, rfl⟩ := Option.map_eq_some_iff.mp replied
    cases phase with
    | answered => cases given; exact .answered readable made
    | _ => cases given
  · simp only [replyTo?, framed] at replied
    cases replied
    exact .refused unreadable

end State

variable {config : Config} {origin : Timestamp} {world : World} {thrownAway : List TransactionId}
  {connection : Nat} {exchanges : List (Exchange World Task)} {last : State World Task}

theorem books_opened : (State.opened config origin world thrownAway connection :
    State World Task).Books [] where
  entered _ _ _ _ found := by cases found
  backed _ _ owned := by cases owned
  distinct _ _ _ _ _ _ _ found := by cases found

theorem Dialog.trace_opened
    (dialog : Dialog service (.opened config origin world thrownAway connection) exchanges last) :
    ∃ moments, Trace service (.fresh config origin world thrownAway) moments last.broker := by
  obtain ⟨moments, trace⟩ := dialog.trace
  have starts : (Broker.fresh config origin world thrownAway).turn? service
      (.input .startDispatcher) =
    some ((State.opened config origin world thrownAway connection).broker, []) := rfl
  exact ⟨_, (Trace.single starts).append trace⟩

theorem Dialog.reads_of_pending (valid : config.validate = .ok config)
    (dialog : Dialog service (.opened config origin world thrownAway connection) exchanges last)
    (settled : last.broker.Settled service) {caller : CallId} {call : Call}
    (found : last.broker.calls[caller]? = some call) (pending : call.isPending = true) :
    last.broker.shutdown = false ∧ ∃ kind id run, last.broker.Reads call kind id run := by
  obtain ⟨moments, trace⟩ := dialog.trace_opened
  have formed := trace.wellFormed
  have blocked : last.broker.advanceCall? caller = none := settled (.call caller)
  have up := Broker.up_of_blocked formed found pending blocked
  obtain ⟨due, running⟩ := (dialog.serving (State.serving_opened ..)).running up
  have idle := Broker.queue_of_blocked running up (settled .dispatcher)
  have room : last.broker.hasRoom = true := by
    simpa [Broker.hasRoom, idle] using trace.roomy valid
  have accepts := Broker.accepts_of_running running
  exact ⟨up, Broker.reads_of_blocked formed up accepts idle room found pending blocked⟩

/-- Whatever comes in and whoever moves first, every text frame gets one reply, under its own
identifier, or waits for a result. -/
theorem replied_of_dialog (valid : config.validate = .ok config)
    (dialog : Dialog service (.opened config origin world thrownAway connection) exchanges last) :
    Replied service (.opened config origin world thrownAway connection) exchanges last := by
  have serving := dialog.serving (State.serving_opened ..)
  have books := dialog.books (State.serving_opened ..) books_opened
  obtain ⟨order, pairs⟩ := dialog.pairs (State.serving_opened ..) books_opened rfl
  refine ⟨⟨order, pairs.once, ?_, ?_⟩, dialog.mute⟩
  · have matched : List.Forall₂ Eq (order.map (last.done (frames exchanges)))
        (last.inbox.map some) := by
      rw [List.forall₂_eq_eq_eq]
      exact pairs.answering
    rw [List.forall₂_map_left_iff, List.forall₂_map_right_iff] at matched
    exact matched.imp fun n reply replied => State.answers_of_done books replied
  · rintro settled n ⟨text, caller⟩ found unanswered
    have unreplied : last.replyTo? (text, caller) = none := by
      cases replied : last.replyTo? (text, caller) with
      | none => rfl
      | some reply =>
        refine absurd (pairs.complete n reply ?_) unanswered
        rw [State.done, found]
        exact replied
    rcases ofFrame_cases text with ⟨envelope, readable, framed⟩ | ⟨problem, _, framed⟩
    · obtain ⟨_, phase, made⟩ := books.entered n _ _ _ found framed
      have present := serving.present _ (List.mem_of_getElem? made)
      have pending : ({ request := envelope.request, phase } : Call).isPending = true := by
        cases phase with
        | answered => simp [State.replyTo?, framed, Broker.given?, made, Call.given?] at unreplied
        | abandoned => exact absurd rfl present
        | _ => rfl
      obtain ⟨up, kind, id, run, reads⟩ := dialog.reads_of_pending valid settled made pending
      have uncancelled : last.broker.isCancelled id = false := by
        simp [Broker.isCancelled, up, reads.found, reads.uncancelled]
      exact ⟨envelope, kind, id, _, run, readable, reads.request, made, reads, uncancelled⟩
    · rw [State.replyTo?, framed] at unreplied
      cases unreplied

def slowly : Simulated.Plan := { operationDelay := ⟨5⟩ }

/-- Two requests under one identifier, the first of them for a result that is not there yet, and a
text that is no request. -/
def chatter : List Message :=
  [.text (inBraces [("id", "7"), ("request", inBraces [("type", inQuotes "GetInstances")])]),
    .binary "7",
    .text (inBraces [("id", "8"),
      ("request", inBraces [("type", inQuotes "GetInstancesResult"), ("transaction", "1")])]),
    .text (inBraces [("id", "9")]),
    .text (inBraces [("id", "8"), ("request", inBraces [("type", inQuotes "ListTransactions")])])]

def chatted : State Catalogue Simulated.Phase :=
  chatter.foldl (State.receive slowly.service) (.opened {} ⟨0, 0⟩ {} [] 0)

theorem replied_chatter : ∃ exchanges,
    Config.validate {} = .ok {} ∧
    Dialog slowly.service (.opened {} ⟨0, 0⟩ {} [] 0) exchanges chatted ∧
    messages exchanges = chatter ∧
    chatted.inbox.map (·.id) = [some 7, some 9, some 8] ∧
    chatted.broker.Settled slowly.service ∧
    chatted.broker.calls.map (·.isPending) = [false, true, false] ∧
    Replied slowly.service (.opened {} ⟨0, 0⟩ {} [] 0) exchanges chatted := by
  have silent :
      Dialog slowly.service (.opened {} ⟨0, 0⟩ {} [] 0) [] (.opened {} ⟨0, 0⟩ {} [] 0) :=
    .nil
  obtain ⟨exchanges, received, dialog⟩ := silent.receiveAll chatter
  have valid : Config.validate {} = .ok {} := rfl
  have blocked : (chatted.broker.next? slowly.service).isNone = true := by decide +kernel
  have settled := Broker.settled_iff.mpr (Option.isNone_iff_eq_none.mp blocked)
  exact ⟨exchanges, valid, dialog, received, by decide +kernel, settled, by decide +kernel,
    replied_of_dialog valid dialog⟩

end Server

end InstanceBroker
