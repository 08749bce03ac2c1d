namespace InstanceBroker

structure PortMapping where
  host : UInt16
  guest : UInt16
deriving DecidableEq, Repr

structure Mount where
  tag : String
  securityModel : String
  path : String
deriving DecidableEq, Repr

structure MachineSpec where
  memMib : UInt32 := 2048
  cpus : UInt32 := 2
  diskGib : UInt32 := 60
  portMappings : List PortMapping := []
  mounts : List Mount := []
deriving DecidableEq, Repr

structure SshAccess where
  keyPath : String
  port : UInt16
deriving DecidableEq, Repr

structure InstanceDetails where
  name : String
  workload : String
  ssh : SshAccess
  spec : MachineSpec
deriving DecidableEq, Repr

end InstanceBroker
