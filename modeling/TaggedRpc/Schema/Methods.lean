import TaggedRpc.Envelope.Basic

/-!
# Known methods

The methods of the one protocol family that is known by name. The arguments of a method are in a
struct named for it with the ending `Req`, its result in one with the ending `Resp`.
-/

namespace TaggedRpc

namespace Method

/-- The name of the protocol family that the known methods belong to. -/
def family : String := "HiveServer2"

/-- The known methods. -/
def known : List String :=
  ["OpenSession", "CloseSession", "ExecuteStatement", "GetOperationStatus", "FetchResults",
    "CloseOperation", "CancelOperation", "GetResultSetMetadata", "GetSchemas", "GetTables",
    "GetColumns", "GetCatalogs", "GetTableTypes", "GetTypeInfo"]

/-- Whether a method is known. -/
def isKnown (method : String) : Bool := known.contains method

/-- The struct of the arguments of a known method. -/
def requestStruct? (method : String) : Option String :=
  if isKnown method then some ("T" ++ method ++ "Req") else none

/-- The struct of the result of a known method. -/
def responseStruct? (method : String) : Option String :=
  if isKnown method then some ("T" ++ method ++ "Resp") else none

/-- The struct of the body of a message. Only requests and answers have one. -/
def bodyStruct? (method : String) : Kind → Option String
  | .call => requestStruct? method
  | .reply => responseStruct? method
  | .exception | .oneWay | .unknown _ => none

end Method

end TaggedRpc
