import ContentCapture.Wire.Names

namespace ContentCapture

/-!
# Removal requests

An app may ask for data that was captured of it to be removed, either all of it
or what belongs to certain pieces of content.  A request that does neither names
no data.
-/

/-- One piece of content whose data is to be removed. -/
structure LocusRemoval where
  locus : LocusId
  /-- Whether the content nested in it is meant too. -/
  recursive : Bool
  deriving DecidableEq, Repr

namespace LocusRemoval

def diagnostic (removal : LocusRemoval) : String :=
  Text.record "LocusIdRequest"
    [("locus_id", removal.locus.diagnostic), ("recursive", Text.ofBool removal.recursive)]

def fieldNames : List String := ["locus_id", "recursive"]

instance : WireForm LocusRemoval where
  encode removal :=
    .object [("locus_id", WireForm.encode removal.locus), ("recursive", .bool removal.recursive)]
  decode? document := do
    let fields ← Json.Fields.read? fieldNames document
    let locus ← fields.required "locus_id" WireForm.decode?
    let recursive ← fields.required "recursive" WireForm.decode?
    return ⟨locus, recursive⟩

end LocusRemoval

/-- A request to remove captured data. -/
structure RemovalRequest where
  packageName : String
  everything : Bool
  loci : List LocusRemoval
  deriving DecidableEq, Repr

namespace RemovalRequest

/-- A request for everything that was captured of a package. -/
def forEverything (packageName : String) : RemovalRequest :=
  ⟨packageName, true, []⟩

/-- A request for single pieces of content of a package, naming none as yet. -/
def forLoci (packageName : String) : RemovalRequest :=
  ⟨packageName, false, []⟩

/-- The request with one more piece of content. -/
def withLocus (request : RemovalRequest) (locus : LocusId) (recursive : Bool) : RemovalRequest :=
  { request with loci := request.loci ++ [⟨locus, recursive⟩] }

/-- Whether the request names no data at all. -/
def isEmpty (request : RemovalRequest) : Bool :=
  !request.everything && request.loci.isEmpty

def diagnostic (request : RemovalRequest) : String :=
  Text.record "UserDataRemovalRequest"
    [("package_name", Text.quote request.packageName),
     ("for_everything", Text.ofBool request.everything),
     ("locus_ids", Text.listed (request.loci.map LocusRemoval.diagnostic))]

def fieldNames : List String := ["packageName", "forEverything", "locusIds"]

/-- The pieces of content are left out if there are none. -/
instance : WireForm RemovalRequest where
  encode request :=
    .object ([("packageName", .text request.packageName),
        ("forEverything", .bool request.everything)] ++
      if request.loci.isEmpty then [] else [("locusIds", WireForm.encode request.loci)])
  decode? document := do
    let fields ← Json.Fields.read? fieldNames document
    let packageName ← fields.required "packageName" WireForm.decode?
    let everything ← fields.required "forEverything" WireForm.decode?
    let loci ← fields.optional "locusIds" [] WireForm.decode?
    return ⟨packageName, everything, loci⟩

end RemovalRequest
end ContentCapture
