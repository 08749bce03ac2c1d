import InstanceBroker.Message.Data

namespace InstanceBroker

open Json (Codec Layout Variant Tagged)

def nameLayout : Layout (String × Unit) := .required "name" .string .done

def transactionLayout : Layout (TransactionId × Unit) :=
  .required "transaction" TransactionId.codec .done

namespace Request

def naming (tag : String) (make : String → Operation) (name? : Operation → Option String) :
    Variant Request :=
  .record tag ("struct variant Request::" ++ tag) nameLayout
    (fun (name, ()) => .initiate (make name))
    fun
      | .initiate operation => (name? operation).map (·, ())
      | _ => none

def collecting (tag : String) (kind : Operation.Kind) : Variant Request :=
  .record tag ("struct variant Request::" ++ tag) transactionLayout
    (fun (transaction, ()) => .collect kind transaction)
    fun
      | .collect other transaction => if other = kind then some (transaction, ()) else none
      | _ => none

def tagged : Tagged Request where
  name := "Request"
  variants :=
    [ .record "Create" "struct CreateArgs" CreateArgs.layout
        (fun parts => .initiate (.create (.ofParts parts)))
        fun
          | .initiate (.create args) => some args.parts
          | _ => none,
      collecting "CreateResult" .create,
      .record "Start" "struct StartArgs" StartArgs.layout
        (fun parts => .initiate (.start (.ofParts parts)))
        fun
          | .initiate (.start args) => some args.parts
          | _ => none,
      collecting "StartResult" .start,
      naming "Stop" .stop fun
        | .stop name => some name
        | _ => none,
      collecting "StopResult" .stop,
      naming "Quit" .quit fun
        | .quit name => some name
        | _ => none,
      collecting "QuitResult" .quit,
      naming "Delete" .delete fun
        | .delete name => some name
        | _ => none,
      collecting "DeleteResult" .delete,
      naming "GetInstanceDetails" .status fun
        | .status name => some name
        | _ => none,
      collecting "GetInstanceDetailsResult" .status,
      .plain "GetInstances" (.initiate .listInstances),
      collecting "GetInstancesResult" .listInstances,
      .record "Cancel" "struct variant Request::Cancel" transactionLayout
        (fun (transaction, ()) => .cancel transaction)
        fun
          | .cancel transaction => some (transaction, ())
          | _ => none,
      .plain "ListTransactions" .listTransactions ]

def codec : Codec Request := tagged.codec

end Request

def ErrorCode.codec : Codec ErrorCode :=
  .names [("cancelled", .cancelled), ("unknown_transaction", .unknownTransaction),
    ("not_found", .notFound), ("already_exists", .alreadyExists), ("backend", .backend),
    ("unexpected_result", .unexpectedResult), ("unavailable", .unavailable),
    ("invalid_request", .invalidRequest)]

namespace Response

def carrying {α : Type} (tag field : String) (codec : Codec α) (make : α → Answer)
    (value? : Answer → Option α) : Variant Response :=
  .record tag ("struct variant Response::" ++ tag) (.required field codec .done)
    (fun (value, ()) => .answer (make value))
    fun
      | .answer given => (value? given).map (·, ())
      | .error .. => none

def tagged : Tagged Response where
  name := "Response"
  variants :=
    [ carrying "TransactionStarted" "transaction" TransactionId.codec .started fun
        | .started transaction => some transaction
        | _ => none,
      carrying "Created" "result" CreateResult.codec .created fun
        | .created result => some result
        | _ => none,
      .plain "Done" (.answer .done),
      carrying "InstanceDetails" "details" InstanceDetails.codec .details fun
        | .details details => some details
        | _ => none,
      carrying "Instances" "names" (.list .string) .instances fun
        | .instances names => some names
        | _ => none,
      .plain "CancelRequested" (.answer .cancelRequested),
      carrying "Transactions" "transactions" (.list TransactionInfo.codec) .transactions fun
        | .transactions infos => some infos
        | _ => none,
      .record "Error" "struct variant Response::Error"
        (.required "code" ErrorCode.codec <| .required "message" .string .done)
        (fun (code, message, ()) => .error code message)
        fun
          | .error code message => some (code, message, ())
          | .answer _ => none ]

def codec : Codec Response := tagged.codec

end Response

namespace Envelope

def layout : Layout (UInt64 × Request × Unit) :=
  .required "id" .uint64 <| .required "request" Request.codec .done

def codec : Codec Envelope :=
  layout.codec "struct Envelope" (fun (id, request, ()) => { id, request })
    fun envelope => (envelope.id, envelope.request, ())

end Envelope

namespace Reply

def layout : Layout (Option UInt64 × Response × Unit) :=
  .defaulting "id" (.option .uint64) none <| .required "response" Response.codec .done

def codec : Codec Reply :=
  layout.codec "struct Reply" (fun (id, response, ()) => { id, response })
    fun reply => (reply.id, reply.response, ())

end Reply

/-- What a text frame turns out to be: a request, or something that is answered at once. -/
def Envelope.ofFrame (frame : String) : Except Reply Envelope :=
  match codec.read frame with
  | .ok envelope => .ok envelope
  | .error problem => .error
    { id := Json.naturalMember? "id" frame
      response := .invalidRequest ("Invalid request format: " ++ problem.text) }

end InstanceBroker
