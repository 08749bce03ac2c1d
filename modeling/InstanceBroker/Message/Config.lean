import InstanceBroker.Message.Data
import InstanceBroker.Duration.Seconds

namespace InstanceBroker

open Json (Codec Layout)

def Duration.codec : Codec Duration :=
  Codec.double.map
    (fun seconds => match ofSeconds? seconds with
      | .ok duration => .ok duration
      | .error e => .error (.refused e.message))
    toSeconds

namespace Config

def size : Codec Nat := .natural "usize" Json.Number.maxNatural

def layout : Layout (Nat × Nat × Option Duration × Duration × Unit) :=
  let standard : Config := {}
  .defaulting "action_queue_capacity" size standard.actionQueueCapacity <|
  .defaulting "result_buffer" size standard.resultBuffer <|
  .defaulting "transaction_ttl" (.option Duration.codec) standard.transactionTtl <|
  .defaulting "sweep_interval" Duration.codec standard.sweepInterval .done

def codec : Codec Config :=
  layout.codec "struct BrokerConfig"
    (fun (actionQueueCapacity, resultBuffer, transactionTtl, sweepInterval, ()) =>
      { actionQueueCapacity, resultBuffer, transactionTtl, sweepInterval })
    fun config =>
      (config.actionQueueCapacity, config.resultBuffer, config.transactionTtl,
        config.sweepInterval, ())

def yamlNumbers : Decimal.Layout :=
  { plainUpTo := 16, zerosUpTo := 4, plus := false, infinity := ".inf", nan := ".nan" }

def yamlSeconds (duration : Duration) : String := yamlNumbers.text duration.toSeconds

def yaml (config : Config) : String :=
  let ttl := (config.transactionTtl.map yamlSeconds).getD "null"
  String.join [
    s!"action_queue_capacity: {config.actionQueueCapacity}\n",
    s!"result_buffer: {config.resultBuffer}\n",
    s!"transaction_ttl: {ttl}\n",
    "sweep_interval: " ++ yamlSeconds config.sweepInterval ++ "\n"]

end Config

end InstanceBroker
