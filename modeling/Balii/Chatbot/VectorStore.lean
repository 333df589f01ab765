import Balii.Chatbot.Knowledge
import Balii.Lib.Upserts
import Balii.Lib.Machine
/-!
# Chatbot.VectorStore — the vector index of the chatbot and how it is kept

The documents are written to a collection of Qdrant, a vector with each, when a search or an administrator asks for it.  One such
sync is under way at a time, and who asks meanwhile waits for it.  A sync that finds the signature of the corpus unchanged ends at once.
-/
namespace Balii.Chatbot

open Batches

/-! ## Points -/

abbrev Embedding := List JsNumber

structure Point where
  vector : Option Embedding
  payload : Json

inductive VectorsConfig
  | single (size : ℕ)
  | named (vectors : List (String × ℕ))

structure Collection where
  vectors : Option VectorsConfig
  points : Table String Point

def hexByte (b : UInt8) : List Char := [hexLower (b.toNat / 16), hexLower (b.toNat % 16)]

/-- A UUID made of the digest of the document's id. -/
def toQdrantPointId (rt : Runtime) (documentId : String) : String :=
  let bytes := (rt.sha256 ("balii-chatbot-knowledge:" ++ documentId)).take 16
  let bytes := bytes.modify 6 fun b => (b &&& 0x0f) ||| 0x50
  let bytes := bytes.modify 8 fun b => (b &&& 0x3f) ||| 0x80
  let hex := bytes.flatMap hexByte
  let slice (start stop : ℕ) : String := String.ofList ((hex.take stop).drop start)
  slice 0 8 ++ "-" ++ slice 8 12 ++ "-" ++ slice 12 16 ++ "-" ++ slice 16 20 ++ "-" ++ slice 20 hex.length

def DocumentType.text : DocumentType → String
  | faq => "faq"
  | policy => "policy"
  | product => "product"

/-- `isDocumentType(value)`, with the type it is. -/
def documentType? (value : String) : Option DocumentType :=
  if value = "faq" then some .faq else if value = "policy" then some .policy else if value = "product" then some .product else none

/-- `...metadata`. -/
def spread : Option Json → List (String × Json)
  | some (.obj fields) => fields
  | _ => []

def payloadOf (d : KnowledgeDocument) : Json :=
  .obj ([("id", .str d.id), ("type", .str d.type.text), ("title", .str d.title), ("content", .str d.content)] ++ spread d.metadata)

/-- A document and the vector that goes with it. -/
structure IndexItem where
  document : KnowledgeDocument
  vector : Option Embedding

def pointRow (rt : Runtime) (item : IndexItem) : String × Point :=
  (toQdrantPointId rt item.document.id, ⟨item.vector, payloadOf item.document⟩)

/-- The documents with their vectors, the vector of the same index with each. -/
def indexItems (documents : List KnowledgeDocument) (vectors : List Embedding) : List IndexItem :=
  documents.zipIdx.map fun place => ⟨place.1, vectors[place.2]?⟩

def chunk (documents : List KnowledgeDocument) (vectors : List Embedding) (size : ℕ) : List (List IndexItem) :=
  batches size (indexItems documents vectors)

def computeSignature (rt : Runtime) (documents : List KnowledgeDocument) : String :=
  rt.sha1 ("\n".intercalate (documents.map fun d =>
    d.id ++ "|" ++ d.title ++ "|" ++ d.content ++ "|" ++ (d.metadata.getD (.obj [])).stringify))

def extractVectorSize : Option VectorsConfig → Option ℕ
  | none => none
  | some (.single size) => some size
  | some (.named vectors) => vectors.head?.map (·.2)

/-! ## The state -/

/-- What a sync has found out before it writes. -/
structure Plan where
  documents : List KnowledgeDocument
  signature : String
  vectors : List Embedding

/-- What `performSync` waits for. -/
inductive Sync
  | readingCorpus
  | embedding (documents : List KnowledgeDocument) (signature : String)
  | looking (plan : Plan) (vectorSize : ℕ) (forceRecreate : Bool)
  | deleting (plan : Plan) (vectorSize : ℕ)
  | creating (plan : Plan) (vectorSize : ℕ)
  | upserting (plan : Plan) (batch : List IndexItem) (rest : List (List IndexItem))
  /-- It is over, and `syncPromise` is not cleared yet. -/
  | settled (error : Option String)

/-- The service, and the collection that is its own. -/
structure VectorStore where
  collection : Option Collection
  syncPromise : Option Sync
  syncedSignature : Option String
  lastError : Option String
  forceRecreateOnNextSync : Bool

namespace VectorStore

/-- The service as it starts. -/
def started (collection : Option Collection) : VectorStore where
  collection := collection
  syncPromise := none
  syncedSignature := none
  lastError := none
  forceRecreateOnNextSync := false

def settle (s : VectorStore) (error : Option String) : VectorStore := { s with syncPromise := some (.settled error) }

def ensureSynced (s : VectorStore) : VectorStore :=
  match s.syncPromise with
  | some _ => s
  | none => { s with syncPromise := some .readingCorpus }

def reindex (s : VectorStore) : VectorStore :=
  { s with syncedSignature := none, forceRecreateOnNextSync := true }.ensureSynced

/-- `performSync` after `getCorpusDocuments()`. -/
def hasCorpus (rt : Runtime) (documents : List KnowledgeDocument) (s : VectorStore) : VectorStore :=
  let signature := computeSignature rt documents
  if some signature = s.syncedSignature then s.settle none
  else { s with syncPromise := some (.embedding documents signature) }

/-- `performSync` after `embedDocuments(documents)`, up to the first request of `ensureCollection`. -/
def hasVectors (documents : List KnowledgeDocument) (signature : String) (vectors : Option (List Embedding)) (s : VectorStore) :
    VectorStore :=
  match vectors with
  | none | some [] => s.settle (some "Embedding generation returned no vectors.")
  | some (v :: vs) =>
    if v.length = 0 then s.settle (some "Unable to determine embedding vector size.")
    else { s with syncPromise := some (.looking ⟨documents, signature, v :: vs⟩ v.length s.forceRecreateOnNextSync) }

/-- The next batch is sent, or the sync is done. -/
def writeOn (plan : Plan) (rest : List (List IndexItem)) (s : VectorStore) : VectorStore :=
  match rest with
  | batch :: rest => { s with syncPromise := some (.upserting plan batch rest) }
  | [] => { s with syncPromise := some (.settled none), syncedSignature := some plan.signature, forceRecreateOnNextSync := false,
                   lastError := none }

/-- `ensureCollection` after it has looked at the collection: there is none, it is kept, or it is deleted. -/
def looked (plan : Plan) (vectorSize : ℕ) (forceRecreate : Bool) (s : VectorStore) : VectorStore :=
  match s.collection with
  | none => { s with syncPromise := some (.creating plan vectorSize) }
  | some c =>
    if !forceRecreate && extractVectorSize c.vectors == some vectorSize then s.writeOn plan (chunk plan.documents plan.vectors 32)
    else { s with syncPromise := some (.deleting plan vectorSize) }

def deleted (plan : Plan) (vectorSize : ℕ) (s : VectorStore) : VectorStore :=
  { s with collection := none, syncPromise := some (.creating plan vectorSize) }

def newCollection (vectorSize : ℕ) : Collection := ⟨some (.single vectorSize), ∅⟩

def created (plan : Plan) (vectorSize : ℕ) (s : VectorStore) : VectorStore :=
  { s with collection := some (newCollection vectorSize) }.writeOn plan (chunk plan.documents plan.vectors 32)

def upsertItems (rt : Runtime) (items : List IndexItem) (c : Collection) : Collection :=
  { c with points := c.points.upsert (items.map (pointRow rt)) }

def upserted (rt : Runtime) (plan : Plan) (batch : List IndexItem) (rest : List (List IndexItem)) (s : VectorStore) : VectorStore :=
  { s with collection := s.collection.map (upsertItems rt batch) }.writeOn plan rest

end VectorStore

/-- What the request that is under way may have done to the collection when no answer comes. -/
def Sync.MayLeave (rt : Runtime) (sync : Sync) (collection collection' : Option Collection) : Prop :=
  collection' = collection ∨
    match sync with
    | .deleting _ _ => collection' = none
    | .creating _ vectorSize => collection = none ∧ collection' = some (VectorStore.newCollection vectorSize)
    | .upserting _ batch _ => ∃ taken, taken.Sublist batch ∧ collection' = collection.map (VectorStore.upsertItems rt taken)
    | _ => False

/-! ## The steps -/

inductive Label
  /-- A search asks for a sync. -/
  | ensureSynced
  | reindex
  | corpus (products : List ProductContext)
  | vectors (vectors : Option (List Embedding))
  | looked
  | deleted
  | created
  | upserted
  /-- The database, or Qdrant, gives no good answer. -/
  | failed (error : String)
  | cleared
  /-- A search or a health check notes how it went. -/
  | noted (lastError : Option String)
  | restarted

/-- What can happen next.  The products of a reading have ids of their own. -/
inductive Step (rt : Runtime) (s : VectorStore) : Label → VectorStore → Prop
  | ensureSynced : Step rt s .ensureSynced s.ensureSynced
  | reindex : Step rt s .reindex s.reindex
  | corpus (products : List ProductContext) (hids : (products.map (·.id)).Nodup) (h : s.syncPromise = some .readingCorpus) :
      Step rt s (.corpus products) (s.hasCorpus rt (buildKnowledgeDocuments rt products))
  | vectors {documents : List KnowledgeDocument} {signature : String} (vectors : Option (List Embedding))
      (h : s.syncPromise = some (.embedding documents signature)) : Step rt s (.vectors vectors) (s.hasVectors documents signature vectors)
  | looked {plan : Plan} {vectorSize : ℕ} {forceRecreate : Bool} (h : s.syncPromise = some (.looking plan vectorSize forceRecreate)) :
      Step rt s .looked (s.looked plan vectorSize forceRecreate)
  | deleted {plan : Plan} {vectorSize : ℕ} (h : s.syncPromise = some (.deleting plan vectorSize)) :
      Step rt s .deleted (s.deleted plan vectorSize)
  | created {plan : Plan} {vectorSize : ℕ} (h : s.syncPromise = some (.creating plan vectorSize)) (hnone : s.collection = none) :
      Step rt s .created (s.created plan vectorSize)
  | upserted {plan : Plan} {batch : List IndexItem} {rest : List (List IndexItem)}
      (h : s.syncPromise = some (.upserting plan batch rest)) (hthere : s.collection.isSome = true) :
      Step rt s .upserted (s.upserted rt plan batch rest)
  | failed {sync : Sync} (error : String) (collection : Option Collection) (h : s.syncPromise = some sync)
      (hopen : ∀ outcome, sync ≠ .settled outcome) (hleft : sync.MayLeave rt s.collection collection) :
      Step rt s (.failed error) ({ s with collection := collection }.settle (some error))
  | cleared {error : Option String} (h : s.syncPromise = some (.settled error)) : Step rt s .cleared { s with syncPromise := none }
  | noted (lastError : Option String) : Step rt s (.noted lastError) { s with lastError := lastError }
  | restarted (collection : Option Collection)
      (hleft : collection = s.collection ∨ ∃ sync, s.syncPromise = some sync ∧ sync.MayLeave rt s.collection collection) :
      Step rt s .restarted (.started collection)

/-! ## Searches -/

/-- A point that answers a query. -/
structure ScoredPoint where
  id : String
  score : Option ℚ
  payload : Option Json

def asString : Option Json → String
  | some (.str s) => s
  | _ => ""

def asNullableString : Option Json → Json
  | some (.str s) => .str s
  | _ => .null

def asNullableNumber : Option Json → Json
  | some (.num n) => .num n
  | some (.str s) => if trim s = "" then .null else .ofNumber (decimalNumber s)
  | _ => .null

def mapPointToDocument (point : ScoredPoint) : Option RetrievedDocument :=
  match point.payload with
  | none => none
  | some payload =>
    let title := asString (payload.get "title")
    let content := asString (payload.get "content")
    match documentType? (asString (payload.get "type")) with
    | none => none
    | some type =>
      if title = "" ∨ content = "" then none
      else some
        { id := orElse (asString (payload.get "id")) point.id
          title, content, type
          metadata := some (.obj
            [("productId", asNullableString (payload.get "productId")), ("slug", asNullableString (payload.get "slug")),
              ("thumbnail", asNullableString (payload.get "thumbnail")), ("price", asNullableNumber (payload.get "price")),
              ("salePrice", asNullableNumber (payload.get "salePrice"))])
          score := point.score }

def RetrievedDocument.slug (d : RetrievedDocument) : Option Json := d.metadata.bind (·.get "slug")

def numberOr (value : Option Json) (other : Option JsNumber) : Option JsNumber :=
  match value with
  | some (.num n) => some (decimalNumber n.text)
  | _ => other

/-- The loop over the documents, with the products seen so far. -/
def suggestions : List RetrievedDocument → List String → List ProductContext
  | [], _ => []
  | document :: rest, seen =>
    if document.type ≠ .product then suggestions rest seen
    else match document.productId, document.slug with
      | some (.str productId), some (.str slug) =>
        if productId ∈ seen then suggestions rest seen
        else
          { id := productId
            name := document.title
            slug
            description := document.content
            price := (numberOr (document.metadata.bind (·.get "price")) (some (.num 0))).getD (.num 0)
            salePrice := numberOr (document.metadata.bind (·.get "salePrice")) none
            material := ""
            targetGender := ""
            recommendedAgeGroups := []
            thumbnail := asString (document.metadata.bind (·.get "thumbnail"))
            updatedAt := none
            variants := [] } :: suggestions rest (productId :: seen)
      | _, _ => suggestions rest seen

def extractSuggestedProducts (documents : List RetrievedDocument) : List ProductContext := (suggestions documents []).take 3

/-- What a search makes of the points that answer its query. -/
def vectorResult (points : List ScoredPoint) : KnowledgeSearchResult :=
  let documents := points.filterMap mapPointToDocument
  { documents, suggestedProducts := extractSuggestedProducts documents, retrievalMode := .vector }

end Balii.Chatbot
