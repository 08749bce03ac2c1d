import InstanceBroker.Json.Codec
import InstanceBroker.Request
import InstanceBroker.Timestamp.Rfc3339

namespace InstanceBroker

open Json (Codec Layout)

namespace PortMapping

def layout : Layout (UInt16 × UInt16 × Unit) :=
  .required "host" .uint16 <| .required "guest" .uint16 .done

def codec : Codec PortMapping :=
  layout.codec "struct PortMapping" (fun (host, guest, ()) => ⟨host, guest⟩)
    fun mapping => (mapping.host, mapping.guest, ())

end PortMapping

namespace Mount

def layout : Layout (String × String × String × Unit) :=
  .required "tag" .string <| .required "security_model" .string <| .required "path" .string .done

def codec : Codec Mount :=
  layout.codec "struct Mount" (fun (tag, securityModel, path, ()) => ⟨tag, securityModel, path⟩)
    fun mount => (mount.tag, mount.securityModel, mount.path, ())

end Mount

namespace MachineSpec

def layout : Layout (UInt32 × UInt32 × UInt32 × List PortMapping × List Mount × Unit) :=
  .required "mem_mib" .uint32 <| .required "cpus" .uint32 <| .required "disk_gib" .uint32 <|
  .defaulting "port_mappings" (.list PortMapping.codec) [] <|
  .defaulting "mounts" (.list Mount.codec) [] .done

def codec : Codec MachineSpec :=
  layout.codec "struct VmSpec"
    (fun (memMib, cpus, diskGib, portMappings, mounts, ()) =>
      { memMib, cpus, diskGib, portMappings, mounts })
    fun spec => (spec.memMib, spec.cpus, spec.diskGib, spec.portMappings, spec.mounts, ())

end MachineSpec

namespace SshAccess

def layout : Layout (String × UInt16 × Unit) :=
  .required "key_path" .string <| .required "port" .uint16 .done

def codec : Codec SshAccess :=
  layout.codec "struct SshConfig" (fun (keyPath, port, ()) => ⟨keyPath, port⟩)
    fun access => (access.keyPath, access.port, ())

end SshAccess

namespace InstanceDetails

def layout : Layout (String × String × SshAccess × MachineSpec × Unit) :=
  .required "name" .string <| .required "workload" .string <|
  .required "ssh" SshAccess.codec <| .required "vm_spec" MachineSpec.codec .done

def codec : Codec InstanceDetails :=
  layout.codec "struct InstanceDetails"
    (fun (name, workload, ssh, spec, ()) => { name, workload, ssh, spec })
    fun details => (details.name, details.workload, details.ssh, details.spec, ())

end InstanceDetails

namespace CreateArgs

def layout : Layout (Option String × String × Bool × Bool × Option MachineSpec × Unit) :=
  .defaulting "name" (.option .string) none <| .defaulting "workload" .string "" <|
  .defaulting "debug" .boolean false <| .defaulting "update" .boolean false <|
  .defaulting "custom_spec" (.option MachineSpec.codec) none .done

def ofParts : Option String × String × Bool × Bool × Option MachineSpec × Unit → CreateArgs
  | (name, workload, debug, update, customSpec, ()) =>
    { name, workload, debug, update, customSpec }

def parts (args : CreateArgs) :
    Option String × String × Bool × Bool × Option MachineSpec × Unit :=
  (args.name, args.workload, args.debug, args.update, args.customSpec, ())

def codec : Codec CreateArgs := layout.codec "struct CreateArgs" ofParts parts

end CreateArgs

namespace StartArgs

def layout : Layout (String × MachineSpec × Unit) :=
  .required "name" .string <| .defaulting "vm_spec" MachineSpec.codec {} .done

def ofParts : String × MachineSpec × Unit → StartArgs
  | (name, spec, ()) => { name, spec }

def parts (args : StartArgs) : String × MachineSpec × Unit := (args.name, args.spec, ())

def codec : Codec StartArgs := layout.codec "struct StartArgs" ofParts parts

end StartArgs

namespace CreateResult

def layout : Layout (Bool × String × Option String × Unit) :=
  .required "finished" .boolean <| .defaulting "name" .string "" <|
  .field "line" (.option .string) (some none) (·.isSome) .done

def codec : Codec CreateResult :=
  layout.codec "struct CreateResult" (fun (finished, name, line, ()) => { finished, name, line })
    fun result => (result.finished, result.name, result.line, ())

end CreateResult

def Operation.Kind.codec : Codec Operation.Kind :=
  .names [("create", .create), ("start", .start), ("stop", .stop), ("quit", .quit),
    ("delete", .delete), ("status", .status), ("list_instances", .listInstances)]

def OperationError.Kind.names : List (String × OperationError.Kind) :=
  [("not_found", .notFound), ("already_exists", .alreadyExists), ("cancelled", .cancelled),
    ("backend", .backend)]

def OperationError.Kind.codec : Codec OperationError.Kind := .names names

namespace OperationError

def layout : Layout (Kind × String × Unit) :=
  .required "kind" Kind.codec <| .required "message" .string .done

def codec : Codec OperationError :=
  layout.codec "struct OperationError" (fun (kind, message, ()) => ⟨kind, message⟩)
    fun error => (error.kind, error.message, ())

end OperationError

def TransactionId.codec : Codec TransactionId := .natural "u64" Json.Number.maxNatural

def TransactionState.codec : Codec TransactionState :=
  .names [("pending", .pending), ("value_ready", .valueReady), ("cancelled", .cancelled)]

/-- Only texts are taken for timestamps. -/
def Timestamp.codec : Codec Timestamp where
  encode timestamp := .string timestamp.text
  decode reading
    | .string (.ok value) stop => match ofText value with
      | .ok timestamp => .ok timestamp
      | .error e => .error (reading.problem (.refused e.message) stop)
    | tree => .error (tree.mismatch reading "an RFC 3339 formatted date and time string")

namespace TransactionInfo

def layout : Layout (TransactionId × Operation.Kind × TransactionState × Timestamp × Unit) :=
  .required "id" TransactionId.codec <| .required "kind" Operation.Kind.codec <|
  .required "state" TransactionState.codec <| .required "created_at" Timestamp.codec .done

def codec : Codec TransactionInfo :=
  layout.codec "struct TransactionInfo"
    (fun (id, kind, state, createdAt, ()) => { id, kind, state, createdAt })
    fun info => (info.id, info.kind, info.state, info.createdAt, ())

end TransactionInfo

end InstanceBroker
