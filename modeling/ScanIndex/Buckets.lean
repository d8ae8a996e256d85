import ScanIndex.Document

/-!
# Keys under buckets

`Buckets` lists keys under their buckets, the buckets in ascending order and each once, and no
bucket without keys.  `Buckets.push` adds a key behind those of its bucket, and `Buckets.adjoin`
does so unless the key is there.
-/

namespace ScanIndex

/-- Keys under buckets, the buckets in ascending order. -/
abbrev Buckets := List (String × List String)

namespace Buckets

/-- Change the keys under a bucket, which are none if the bucket is not listed. -/
def modify (bucket : String) (f : List String → List String) : Buckets → Buckets
  | [] => [(bucket, f [])]
  | (b, keys) :: rest =>
    if bucket < b then (bucket, f []) :: (b, keys) :: rest
    else if bucket = b then (b, f keys) :: rest
    else (b, keys) :: modify bucket f rest

/-- Add a key behind those of its bucket. -/
def push (g : Buckets) (f : File) : Buckets := modify f.bucket (fun keys => keys ++ [f.key]) g

/-- Add a key behind those of its bucket, unless it is one of them. -/
def adjoin (g : Buckets) (f : File) : Buckets :=
  modify f.bucket (fun keys => if f.key ∈ keys then keys else keys ++ [f.key]) g

/-- The keys under a bucket. -/
def keysOf (bucket : String) : Buckets → List String
  | [] => []
  | (b, keys) :: rest => if bucket = b then keys else keysOf bucket rest

/-- The number of keys. -/
def size (g : Buckets) : Nat := (g.flatMap Prod.snd).length

/-- The files of documents, each once, in the order in which they come up under their buckets. -/
def ofDocuments (ds : List Document) : Buckets := ds.foldl (fun g d => g.adjoin d.file) []

end Buckets

end ScanIndex
