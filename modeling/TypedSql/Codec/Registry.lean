import TypedSql.Codec.Basic

namespace TypedSql

structure CodecRegistry where
  supported : List WireType
  registered : List CodecId := []
deriving DecidableEq

namespace CodecRegistry

def supports (r : CodecRegistry) (type : WireType) : Bool :=
  r.supported.contains type

def register (r : CodecRegistry) (id : CodecId) : Except ConfigurationFault CodecRegistry :=
  if r.supports id.type then
    .ok (if r.registered.contains id then r else { r with registered := r.registered ++ [id] })
  else .error (.unhandledType id.native.name id.type)

def registerAll (r : CodecRegistry) (ids : List CodecId) :
    Except ConfigurationFault CodecRegistry :=
  ids.foldlM register r

end CodecRegistry

end TypedSql
