import TaggedRpc.Schema.Registry
import TaggedRpc.Wire.Tag

/-!
# Schemas of the known methods

Descriptors of the arguments and results of some of the known methods, with the numbers that vendors
use for extensions.
-/

namespace TaggedRpc

namespace Hive

/-- A descriptor of a field with a tag. -/
def field (id : Int16) (tag : Tag) (name : String) : Descriptor := ⟨id, tag.toByte, name⟩

/-- The descriptors of the known structs. -/
def registry : Registry := .ofList [
  ("TOpenSessionReq", [
    field 1 .i32 "client_protocol",
    field 2 .string "username",
    field 3 .string "password",
    field 4 .map "configuration"]),
  ("TOpenSessionResp", [
    field 1 .struct "status",
    field 2 .i32 "serverProtocolVersion",
    field 3 .struct "sessionHandle",
    field 4 .map "configuration"]),
  ("TCloseSessionReq", [field 1 .struct "sessionHandle"]),
  ("TCloseSessionResp", [field 1 .struct "status"]),
  ("TExecuteStatementReq", [
    field 1 .struct "sessionHandle",
    field 2 .string "statement",
    field 3 .map "confOverlay",
    field 4 .bool "runAsync",
    field 5 .i64 "queryTimeout",
    field 0x501 .struct "getDirectResults",
    field 0x502 .bool "canReadArrowResult"]),
  ("TExecuteStatementResp", [
    field 1 .struct "status",
    field 2 .struct "operationHandle",
    field 0x501 .struct "directResults"]),
  ("TGetOperationStatusReq", [
    field 1 .struct "operationHandle",
    field 2 .bool "getProgressUpdate"]),
  ("TFetchResultsReq", [
    field 1 .struct "operationHandle",
    field 2 .i32 "orientation",
    field 3 .i64 "maxRows",
    field 4 .i16 "fetchType"]),
  ("TFetchResultsResp", [
    field 1 .struct "status",
    field 2 .bool "hasMoreRows",
    field 3 .struct "results"]),
  ("TCloseOperationReq", [field 1 .struct "operationHandle"])]

end Hive

end TaggedRpc
