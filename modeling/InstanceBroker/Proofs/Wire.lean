import InstanceBroker.Message.Wire
import InstanceBroker.Proofs.Json.Yielded
import InstanceBroker.Proofs.Timestamp.Rfc3339

namespace InstanceBroker

open Json Json.Codec

theorem PortMapping.restores (levels : Nat) (mapping : PortMapping) :
    codec.Restores (levels + 1) mapping :=
  Layout.restores_codec _ ⟨by decide, restores_uint16 _ _, by decide,
    restores_uint16 _ _, trivial⟩
    rfl

theorem Mount.restores (levels : Nat) (mount : Mount) : codec.Restores (levels + 1) mount :=
  Layout.restores_codec _ ⟨by decide, restores_string _ _, by decide, restores_string _ _,
    by decide, restores_string _ _, trivial⟩ rfl

theorem MachineSpec.restores (levels : Nat) (spec : MachineSpec) :
    codec.Restores (levels + 3) spec :=
  Layout.restores_codec _ ⟨by decide, restores_uint32 _ _, by decide, restores_uint32 _ _,
    by decide, restores_uint32 _ _,
    by decide, restores_list fun mapping _ => PortMapping.restores levels mapping,
    by decide, restores_list fun mount _ => Mount.restores levels mount, trivial⟩ rfl

theorem SshAccess.restores (levels : Nat) (access : SshAccess) :
    codec.Restores (levels + 1) access :=
  Layout.restores_codec _ ⟨by decide, restores_string _ _, by decide,
    restores_uint16 _ _, trivial⟩
    rfl

theorem InstanceDetails.restores (levels : Nat) (details : InstanceDetails) :
    codec.Restores (levels + 4) details :=
  Layout.restores_codec _ ⟨by decide, restores_string _ _, by decide, restores_string _ _,
    by decide, SshAccess.restores (levels + 2) details.ssh,
    by decide, MachineSpec.restores levels details.spec, trivial⟩ rfl

theorem CreateArgs.restores_layout (levels : Nat) (args : CreateArgs) :
    layout.Restores (levels + 3) args.parts := by
  have name : (Codec.option Codec.string).Restores (levels + 3) args.name := by
    cases args.name with
    | none => exact restores_none _ _
    | some name => exact (restores_string _ _).optional nofun
  have spec : (Codec.option MachineSpec.codec).Restores (levels + 3) args.customSpec := by
    cases args.customSpec with
    | none => exact restores_none _ _
    | some spec => exact (MachineSpec.restores levels spec).optional nofun
  exact ⟨by decide, name, by decide, restores_string _ _, by decide, restores_boolean _ _,
    by decide, restores_boolean _ _, by decide, spec, trivial⟩

theorem StartArgs.restores_layout (levels : Nat) (args : StartArgs) :
    layout.Restores (levels + 3) args.parts :=
  ⟨by decide, restores_string _ _, by decide, MachineSpec.restores levels args.spec, trivial⟩

theorem CreateResult.restores (levels : Nat) (result : CreateResult) :
    codec.Restores (levels + 1) result := by
  obtain ⟨finished, name, line⟩ := result
  refine Layout.restores_codec _ ⟨by decide, restores_boolean _ _, by decide, restores_string _ _,
    by decide, ?_, trivial⟩ rfl
  cases line with
  | none => rfl
  | some line => exact (restores_string _ _).optional nofun

theorem Operation.Kind.restores (levels : Nat) (kind : Operation.Kind) :
    codec.Restores levels kind :=
  restores_names levels (by cases kind <;> rfl)

theorem TransactionState.restores (levels : Nat) (state : TransactionState) :
    codec.Restores levels state :=
  restores_names levels (by cases state <;> rfl)

theorem ErrorCode.restores (levels : Nat) (code : ErrorCode) : codec.Restores levels code :=
  restores_names levels (by cases code <;> rfl)

theorem TransactionId.restores (levels : Nat) {id : TransactionId}
    (small : id ≤ Number.maxNatural) :
    TransactionId.codec.Restores levels id :=
  restores_natural _ levels (Nat.le_refl _) small

theorem Timestamp.restores (levels : Nat) {timestamp : Timestamp} (plain : timestamp.IsPlain) :
    codec.Restores levels timestamp where
  plain := trivial
  read reading tree _ shows := by
    have back := ofText_text plain
    change Shows (Value.string timestamp.text).datum tree at shows
    generalize timestamp.text = spelled at back shows
    cases shows
    simp only [codec, Literal.ofString, back]

theorem TransactionInfo.restores (levels : Nat) {info : TransactionInfo}
    (small : info.id ≤ Number.maxNatural) (plain : info.createdAt.IsPlain) :
    codec.Restores (levels + 1) info :=
  Layout.restores_codec _ ⟨by decide, TransactionId.restores _ small,
    by decide, Operation.Kind.restores _ _, by decide, TransactionState.restores _ _,
    by decide, Timestamp.restores _ plain, trivial⟩ rfl

def Request.Numbered : Request → Prop
  | .collect _ transaction | .cancel transaction => transaction ≤ Number.maxNatural
  | _ => True

theorem restores_nameLayout (levels : Nat) (name : String) :
    nameLayout.Restores levels (name, ()) :=
  ⟨by decide, restores_string _ _, trivial⟩

theorem restores_transactionLayout (levels : Nat) {transaction : TransactionId}
    (small : transaction ≤ Number.maxNatural) :
    transactionLayout.Restores levels (transaction, ()) :=
  ⟨by decide, TransactionId.restores _ small, trivial⟩

namespace Request

theorem restores_naming (tag : String) (levels : Nat) {make : String → Operation}
    {name? : Operation → Option String} {name : String} (named : name? (make name) = some name)
    (deep : levels ≤ maxDepth) :
    (naming tag make name?).Restores levels (.initiate (make name))
      (nameLayout.members (name, ())) :=
  Variant.restores_record _ _ (congrArg (Option.map (·, ())) named)
    (restores_nameLayout levels name)
    rfl (by decide) deep

theorem restores_collecting (tag : String) (kind : Operation.Kind) (levels : Nat)
    {transaction : TransactionId} (small : transaction ≤ Number.maxNatural)
    (deep : levels ≤ maxDepth) :
    (collecting tag kind).Restores levels (.collect kind transaction)
      (transactionLayout.members (transaction, ())) :=
  Variant.restores_record _ _ (if_pos rfl) (restores_transactionLayout levels small) rfl (by decide)
    deep

theorem restores {request : Request} (numbered : request.Numbered) : codec.Restores 4 request := by
  match request with
  | .initiate (.create args) =>
    exact Tagged.restores_codec "Create" rfl rfl (Variant.restores_record _ _ rfl
      (CreateArgs.restores_layout 0 args) rfl (by decide) (by decide))
  | .initiate (.start args) =>
    exact Tagged.restores_codec "Start" rfl rfl (Variant.restores_record _ _ rfl
      (StartArgs.restores_layout 0 args) rfl (by decide) (by decide))
  | .initiate (.stop name) =>
    exact Tagged.restores_codec "Stop" rfl rfl (restores_naming _ _ rfl (by decide))
  | .initiate (.quit name) =>
    exact Tagged.restores_codec "Quit" rfl rfl (restores_naming _ _ rfl (by decide))
  | .initiate (.delete name) =>
    exact Tagged.restores_codec "Delete" rfl rfl (restores_naming _ _ rfl (by decide))
  | .initiate (.status name) =>
    exact Tagged.restores_codec "GetInstanceDetails" rfl rfl (restores_naming _ _ rfl (by decide))
  | .initiate .listInstances =>
    exact Tagged.restores_codec "GetInstances" rfl rfl (Variant.restores_plain _ _)
  | .collect .create _ =>
    exact Tagged.restores_codec "CreateResult" rfl rfl
      (restores_collecting _ _ _ numbered (by decide))
  | .collect .start _ =>
    exact Tagged.restores_codec "StartResult" rfl rfl
      (restores_collecting _ _ _ numbered (by decide))
  | .collect .stop _ =>
    exact Tagged.restores_codec "StopResult" rfl rfl
      (restores_collecting _ _ _ numbered (by decide))
  | .collect .quit _ =>
    exact Tagged.restores_codec "QuitResult" rfl rfl
      (restores_collecting _ _ _ numbered (by decide))
  | .collect .delete _ =>
    exact Tagged.restores_codec "DeleteResult" rfl rfl
      (restores_collecting _ _ _ numbered (by decide))
  | .collect .status _ =>
    exact Tagged.restores_codec "GetInstanceDetailsResult" rfl rfl
      (restores_collecting _ _ _ numbered (by decide))
  | .collect .listInstances _ =>
    exact Tagged.restores_codec "GetInstancesResult" rfl rfl
      (restores_collecting _ _ _ numbered (by decide))
  | .cancel _ =>
    exact Tagged.restores_codec "Cancel" rfl rfl (Variant.restores_record _ _ rfl
      (restores_transactionLayout _ numbered) rfl (by decide) (by decide))
  | .listTransactions =>
    exact Tagged.restores_codec "ListTransactions" rfl rfl (Variant.restores_plain _ _)

end Request

theorem Envelope.restores {envelope : Envelope} (numbered : envelope.request.Numbered) :
    codec.Restores 5 envelope :=
  Layout.restores_codec _ ⟨by decide, restores_uint64 _ _, by decide, Request.restores numbered,
    trivial⟩
    rfl

namespace Response

def Numbered : Response → Prop
  | .answer (.started transaction) => transaction ≤ Number.maxNatural
  | .answer (.transactions infos) => ∀ info ∈ infos, info.id ≤ Number.maxNatural
  | _ => True

/-- The moments that are told of are plain. -/
def Dated : Response → Prop
  | .answer (.transactions infos) => ∀ info ∈ infos, info.createdAt.IsPlain
  | _ => True

theorem restores_carrying {α : Type} (tag : String) {field : String} {codec : Codec α}
    {make : α → Answer} {value? : Answer → Option α} {value : α} {levels : Nat}
    (restores : codec.Restores levels value) (taken : value? (make value) = some value)
    (untagged : Tagged.tagName ∉ [field]) (deep : levels ≤ maxDepth) :
    (carrying tag field codec make value?).Restores levels (.answer (make value))
      ((Layout.required field codec .done).members (value, ())) :=
  Variant.restores_record _ _ (congrArg (Option.map (·, ())) taken)
    ⟨List.not_mem_nil, restores, trivial⟩ rfl untagged deep

theorem restores {response : Response} (numbered : response.Numbered) (dated : response.Dated) :
    codec.Restores 5 response := by
  match response with
  | .answer (.started _) =>
    exact Tagged.restores_codec "TransactionStarted" rfl rfl
      (restores_carrying _ (TransactionId.restores _ numbered) rfl (by decide) (by decide))
  | .answer (.created result) =>
    exact Tagged.restores_codec "Created" rfl rfl
      (restores_carrying _ (CreateResult.restores _ result) rfl (by decide) (by decide))
  | .answer .done => exact Tagged.restores_codec "Done" rfl rfl (Variant.restores_plain _ _)
  | .answer (.details details) =>
    exact Tagged.restores_codec "InstanceDetails" rfl rfl
      (restores_carrying _ (InstanceDetails.restores 0 details) rfl (by decide) (by decide))
  | .answer (.instances names) =>
    exact Tagged.restores_codec "Instances" rfl rfl (restores_carrying _
      (restores_list fun name _ => restores_string _ name) rfl (by decide) (by decide))
  | .answer .cancelRequested =>
    exact Tagged.restores_codec "CancelRequested" rfl rfl (Variant.restores_plain _ _)
  | .answer (.transactions infos) =>
    exact Tagged.restores_codec "Transactions" rfl rfl (restores_carrying _
      (restores_list fun info among =>
        TransactionInfo.restores _ (numbered info among) (dated info among)) rfl
      (by decide) (by decide))
  | .error code message =>
    exact Tagged.restores_codec "Error" rfl rfl (Variant.restores_record _ _ rfl
      ⟨by decide, ErrorCode.restores _ _, by decide, restores_string _ _, trivial⟩
      rfl (by decide)
      (by decide))

end Response

theorem Reply.restores {reply : Reply} (numbered : reply.response.Numbered)
    (dated : reply.response.Dated) : codec.Restores 6 reply := by
  obtain ⟨id, response⟩ := reply
  have body := Response.restores numbered dated
  refine Layout.restores_codec _ ⟨by decide, ?_, by decide, body, trivial⟩ rfl
  cases id with
  | none => exact restores_none _ _
  | some id => exact (restores_uint64 _ _).optional nofun

theorem yields_transactionLayout :
    transactionLayout.Yields fun parts => parts.1 ≤ Number.maxNatural ∧ True :=
  Layout.Yields.required (yields_natural _ _) (Layout.yields_any _) _

namespace Request

theorem yields_naming (tag : String) (make : String → Operation)
    (name? : Operation → Option String) : (naming tag make name?).Yields Numbered :=
  Variant.yields_record _ _ nameLayout.yields_any (fun _ _ => trivial) _

theorem yields_collecting (tag : String) (kind : Operation.Kind) :
    (collecting tag kind).Yields Numbered :=
  Variant.yields_record _ _ yields_transactionLayout (fun _ small => small.1) _

theorem yields_numbered : codec.Yields Numbered := by
  refine Tagged.yields_codec ?_
  simp only [tagged, List.forall_mem_cons]
  exact ⟨Variant.yields_record _ _ CreateArgs.layout.yields_any (fun _ _ => trivial) _,
    yields_collecting _ _,
    Variant.yields_record _ _ StartArgs.layout.yields_any (fun _ _ => trivial) _,
    yields_collecting _ _, yields_naming _ _ _, yields_collecting _ _, yields_naming _ _ _,
    yields_collecting _ _, yields_naming _ _ _, yields_collecting _ _, yields_naming _ _ _,
    yields_collecting _ _, Variant.yields_plain _ trivial, yields_collecting _ _,
    Variant.yields_record _ _ yields_transactionLayout (fun _ small => small.1) _,
    Variant.yields_plain _ trivial,
    fun _ none => absurd none List.not_mem_nil⟩

end Request

theorem Envelope.yields_numbered : codec.Yields (·.request.Numbered) :=
  Layout.Yields.codec (.required (yields_any _)
    (.required Request.yields_numbered (Layout.yields_any _) _) _) _ fun _ both => both.2.1

namespace Response

theorem yields_carrying {α : Type} (tag field : String) {codec : Codec α} {P : α → Prop}
    (yields : codec.Yields P) {make : α → Answer} (value? : Answer → Option α)
    (imp : ∀ value, P value → Numbered (.answer (make value))) :
    (carrying tag field codec make value?).Yields Numbered :=
  Variant.yields_record _ _ (.required yields (Layout.yields_any _) _)
    (fun value both => imp value.1 both.1) _

theorem yields_infos : (Codec.list TransactionInfo.codec).Yields
    fun infos => ∀ info ∈ infos, info.id ≤ Number.maxNatural := by
  refine Codec.Yields.list (Layout.Yields.codec (.required (yields_natural _ _)
    (Layout.yields_any _) _) _ fun _ both => both.1)

theorem yields_numbered : codec.Yields Numbered := by
  refine Tagged.yields_codec ?_
  simp only [tagged, List.forall_mem_cons]
  exact ⟨yields_carrying _ _ (yields_natural _ _) _ fun _ small => small,
    yields_carrying _ _ (yields_any _) _ fun _ _ => trivial,
    Variant.yields_plain _ trivial,
    yields_carrying _ _ (yields_any _) _ fun _ _ => trivial,
    yields_carrying _ _ (yields_any _) _ fun _ _ => trivial,
    Variant.yields_plain _ trivial,
    yields_carrying _ _ yields_infos _ fun _ small => small,
    Variant.yields_record _ _ (Layout.yields_any _) (fun _ _ => trivial) _,
    fun _ none => absurd none List.not_mem_nil⟩

end Response

theorem Reply.yields_numbered : codec.Yields (·.response.Numbered) :=
  Layout.Yields.codec (.field (yields_any _) (fun _ _ => trivial)
    (.required Response.yields_numbered (Layout.yields_any _) _) _ _) _ fun _ both => both.2.1

/-- Requests and replies are read as they were written, whatever is asked and answered. -/
theorem wire_roundTrips :
    Envelope.codec.RoundTrips (·.request.Numbered) (fun _ => True) ∧
      Reply.codec.RoundTrips (·.response.Numbered) (·.response.Dated) :=
  ⟨roundTrips (fun _ numbered _ => Envelope.restores numbered) (by decide)
      Envelope.yields_numbered,
    roundTrips (fun _ numbered dated => Reply.restores numbered dated) (by decide)
      Reply.yields_numbered⟩

def census : Reply where
  response := .answer (.transactions
    [{ id := 18446744073709551615, kind := .create, state := .valueReady
       createdAt := ⟨-1, 500000000⟩ }])

theorem wire_roundTrips_census :
    Reply.codec.write census = inBraces [("id", "null"), ("response",
      inBraces [("type", inQuotes "Transactions"), ("transactions", "[" ++
        inBraces [("id", "18446744073709551615"), ("kind", inQuotes "create"),
          ("state", inQuotes "value_ready"), ("created_at", inQuotes "1969-12-31T23:59:59.500Z")] ++
        "]")])] ∧
    census.response.Numbered ∧ census.response.Dated ∧
    Reply.codec.read (Reply.codec.write census) = .ok census := by
  have numbered : census.response.Numbered := by
    intro info among
    rw [List.mem_singleton.mp among]
    decide
  have dated : census.response.Dated := by
    intro info among
    rw [List.mem_singleton.mp among]
    exact ⟨by decide, by decide, by decide⟩
  exact ⟨by decide +kernel, numbered, dated, wire_roundTrips.2.restored census numbered dated⟩

end InstanceBroker
