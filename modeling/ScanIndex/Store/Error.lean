import ScanIndex.Document

/-!
# Failures of a store

A `StoreError` says what kind of work failed, and at which `StoreStep`.
-/

namespace ScanIndex

/-- A step of the work of a store. -/
inductive StoreStep where
  | beginUpsert (file : File)
  | insertDocument (file : File)
  | insertPages (file : File)
  | deleteChunk (size : Nat)
  | deleteByQuery
  | queryDocuments
  | queryKeys
  | countDocuments
  | createSchema
  /-- The step that puts a stored line together. -/
  | readLine (id : String)
  /-- The call of a method that is out of order. -/
  | outOfOrder
deriving DecidableEq

/-- The name of a step. -/
def StoreStep.name : StoreStep → String
  | beginUpsert f => "begin upsert of " ++ f.path
  | insertDocument f => "insert document " ++ f.path
  | insertPages f => "insert pages of " ++ f.path
  | deleteChunk n => "delete " ++ toString n ++ " documents"
  | deleteByQuery => "delete by file info"
  | queryDocuments => "query documents"
  | queryKeys => "query document keys"
  | countDocuments => "count documents"
  | createSchema => "create schema"
  | readLine id => "line " ++ id
  | outOfOrder => "out of order"

/-- A failure of a store. -/
inductive StoreError where
  | write (step : StoreStep)
  | read (step : StoreStep)
  | decode (step : StoreStep)
  | schema (step : StoreStep)
deriving DecidableEq

namespace StoreError

/-- The code of a failure. -/
def code : StoreError → String
  | write _ => "STORE_WRITE"
  | read _ => "STORE_READ"
  | decode _ => "DECODE"
  | schema _ => "STORE_DDL"

/-- The message of a failure. -/
def message : StoreError → String
  | write _ => "store write failed"
  | read _ => "store read failed"
  | decode _ => "stored document could not be decoded"
  | schema _ => "store schema setup failed"

/-- The step at which a failure occurred. -/
def step : StoreError → StoreStep
  | write s => s
  | read s => s
  | decode s => s
  | schema s => s

end StoreError

end ScanIndex
