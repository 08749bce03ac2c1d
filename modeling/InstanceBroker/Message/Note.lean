import InstanceBroker.Message.Data
import InstanceBroker.Service.Scripted

namespace InstanceBroker

def Operation.callText : Operation → String
  | .create args => "create " ++ CreateArgs.codec.write args
  | .start args =>
    "start " ++ Json.Codec.string.write args.name ++ " " ++ MachineSpec.codec.write args.spec
  | .stop name => "stop " ++ Json.Codec.string.write name
  | .quit name => "quit " ++ Json.Codec.string.write name
  | .delete name => "delete " ++ Json.Codec.string.write name
  | .status name => "status " ++ Json.Codec.string.write name
  | .listInstances => "get_instances"

def OperationError.Kind.text (kind : OperationError.Kind) : String :=
  ((OperationError.Kind.names.find? (·.2 = kind)).map (·.1)).getD ""

def Scripted.Note.text : Scripted.Note → String
  | called operation => operation.callText
  | succeeded => "ok"
  | failed error => error.kind.text ++ ": " ++ error.message
  | ended true => "end cancelled"
  | ended false => "end"

end InstanceBroker
