import TaggedRpc.Encode.Payload

/-!
# Samples of messages

Messages of known methods with given contents.
-/

namespace TaggedRpc

namespace Hive

/-- The public and the secret part of an identifier. -/
def identifier (guid secret : String) : Payload := .struct [(1, .text guid), (2, .text secret)]

/-- A handle of an operation: its identifier, its type and whether it has a result. -/
def operationHandle (guid secret : String) : Payload :=
  .struct [(1, identifier guid secret), (2, .i32 0), (3, .bool true)]

/-- The arguments of the execution of a statement. -/
def executeStatementFields (statement : String) : List (Int16 × Payload) :=
  [(1, .struct [(1, identifier "guid-0001" "secret-0001")]),
    (2, .text statement),
    (3, .map .string .string [(.text "spark.sql.adaptive.enabled", .text "true")]),
    (4, .bool true),
    (5, .i64 30)]

/-- The arguments of a request for the results of an operation. -/
def fetchResultsFields (guid : String) : List (Int16 × Payload) :=
  [(1, operationHandle guid "secret-0002"), (2, .i32 0), (3, .i64 10000)]

/-- The result of the execution of a statement that succeeded. -/
def executeStatementReplyFields : List (Int16 × Payload) :=
  [(1, .struct [(1, .i32 0), (2, .list .string [.text "Query executed successfully"])]),
    (2, operationHandle "guid-0003" "secret-0003")]

/-- A message with a versioned header. -/
def message (method : String) (kind : Kind) (sequenceId : Int32)
    (fields : List (Int16 × Payload)) : ByteArray :=
  Payload.encodeMessage ⟨method, kind, sequenceId, .strict⟩ fields

/-- A request to execute a statement. -/
def executeStatementCall (sequenceId : Int32) (statement : String) : ByteArray :=
  message "ExecuteStatement" .call sequenceId (executeStatementFields statement)

/-- A request for the results of an operation. -/
def fetchResultsCall (sequenceId : Int32) (guid : String) : ByteArray :=
  message "FetchResults" .call sequenceId (fetchResultsFields guid)

/-- An answer to a request to execute a statement, under the name of any method. -/
def executeStatementReply (sequenceId : Int32) (method : String) : ByteArray :=
  message method .reply sequenceId executeStatementReplyFields

end Hive

end TaggedRpc
