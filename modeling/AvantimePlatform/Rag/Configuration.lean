import AvantimePlatform.Embedding.Reindex
import AvantimePlatform.Lib.JsNumber
import AvantimePlatform.Rag.Citations

/-!
# The configuration of retrieval

`loadRagConfiguration` of `rag-configuration.ts`.  `Number(text)` and the path of the data
directory are parameters.
-/

namespace AvantimePlatform.Rag.Loading

open AvantimePlatform.Checked AvantimePlatform.Documents
open AvantimePlatform.Embedding (AiProviderDriver)

/-! ## Reading the environment -/

/-- `Record<string, string | undefined>`. -/
abbrev Environment := String → Option String

/-- `Number(text)`, and `path.resolve` of the data directory or of the default one. -/
structure EnvironmentRuntime where
  number : String → JsNumber
  dataDirectory : Option String → String

/-- `environment[name]?.trim()`, unless it is empty. -/
def setting (environment : Environment) (name : String) : Option String :=
  ((environment name).map Text.trim).filter (· ≠ "")

/-- `parseEnum`, with the members by their names. -/
def parseEnum {T : Type} (values : List (String × T)) (environment : Environment) (name : String)
    (fallback : T) : Except String T :=
  match setting environment name with
  | none => .ok fallback
  | some value =>
    match values.lookup value with
    | some member => .ok member
    | none => .error (name ++ " has an unsupported value.")

/-- The integer of a positive safe integer. -/
def positiveInteger? (number : JsNumber) : Option Nat :=
  match number with
  | .finite value =>
    if number.isSafeInteger = true ∧ 0 < value then some value.num.toNat else none
  | .nonFinite => none

def parsePositiveInteger (runtime : EnvironmentRuntime) (environment : Environment)
    (name : String) (fallback : Nat) : Except String Nat :=
  match setting environment name with
  | none => .ok fallback
  | some value =>
    match positiveInteger? (runtime.number value) with
    | some parsed => .ok parsed
    | none => .error (name ++ " must be a positive integer.")

def parseNonNegativeNumber (runtime : EnvironmentRuntime) (environment : Environment)
    (name : String) (fallback : ℚ) : Except String ℚ :=
  match setting environment name with
  | none => .ok fallback
  | some value =>
    match runtime.number value with
    | .finite parsed =>
      if 0 ≤ parsed then .ok parsed else .error (name ++ " must be a non-negative number.")
    | .nonFinite => .error (name ++ " must be a non-negative number.")

def parseUnitInterval (runtime : EnvironmentRuntime) (environment : Environment) (name : String)
    (fallback : ℚ) : Except String ℚ := do
  let parsed ← parseNonNegativeNumber runtime environment name fallback
  require (parsed ≤ 1) (name ++ " must be between 0 and 1.")
  return parsed

def parseBoolean (environment : Environment) (name : String) (fallback : Bool) :
    Except String Bool :=
  match setting environment name with
  | none => .ok fallback
  | some value =>
    if value = "true" then .ok true
    else if value = "false" then .ok false
    else .error (name ++ " must be true or false.")

def requireValue (environment : Environment) (name : String) : Except String Unit :=
  require ((setting environment name).isSome = true)
    (name ++ " is required for the selected RAG configuration.")

/-- What may follow the first character: that of a path segment, a colon or a slash. -/
def isIdentifierCharacter (c : Char) : Bool := isSegmentCharacter c || c == ':' || c == '/'

/-- The strings that `assertSafeIdentifier` accepts. -/
def isSafeIdentifier (maximum : Nat) (value : String) : Bool :=
  match value.toList with
  | [] => false
  | c :: rest =>
    decide (Text.utf16Length value ≤ maximum) && c.isAlphanum && rest.all isIdentifierCharacter

def assertSafeIdentifier (value name : String) (maximum : Nat) : Except String String :=
  if isSafeIdentifier maximum value then .ok value else .error (name ++ " has an invalid value.")

/-! ## The configuration -/

inductive VectorDriver where
  | memory | pgvector
deriving DecidableEq

inductive EmbeddingQueueDriver where
  | local | postgresql | redis
deriving DecidableEq

/-- `AI_PROVIDER_DRIVERS`. -/
def aiProviderDrivers : List (String × AiProviderDriver) :=
  [("fake", .fake), ("openai", .openai), ("gemini", .gemini), ("disabled", .disabled)]

/-- `VECTOR_DRIVERS`. -/
def vectorDrivers : List (String × VectorDriver) := [("memory", .memory), ("pgvector", .pgvector)]

/-- `EMBEDDING_QUEUE_DRIVERS`. -/
def embeddingQueueDrivers : List (String × EmbeddingQueueDriver) :=
  [("local", .local), ("postgresql", .postgresql), ("redis", .redis)]

/-- `configuration.embedding`. -/
structure EmbeddingConfiguration where
  driver : AiProviderDriver
  model : String
  dimensions : Nat
  version : String
  batchSize : Nat
  timeoutMs : Nat
  maxAttempts : Nat
  initialRetryMs : Nat
  maximumRetryMs : Nat

/-- `configuration.embeddingQueue`. -/
structure EmbeddingQueueConfiguration where
  driver : EmbeddingQueueDriver
  leaseMs : Nat
  pollMs : Nat

/-- `configuration.hybrid`. -/
structure HybridConfiguration where
  lexicalWeight : ℚ
  semanticWeight : ℚ
  topK : Nat
  maximumChunksPerDocument : Nat
  minimumScore : ℚ
  semanticSimilarityThreshold : ℚ

/-- `configuration.answer`. -/
structure AnswerConfiguration where
  driver : AiProviderDriver
  model : String
  maximumContextCharacters : Nat
  maximumOutputTokens : Nat
  timeoutMs : Nat

/-- `configuration.limits`. -/
structure LimitsConfiguration where
  queryMaximumCharacters : Nat
  rateLimitPerMinute : Nat
  rateLimitPerDay : Nat
  burstLimit : Nat
  dailyBudgetEur : ℚ
  monthlyBudgetEur : ℚ

structure RagConfiguration where
  production : Bool
  requiredForReadiness : Bool
  dataDirectory : String
  embedding : EmbeddingConfiguration
  vector : VectorDriver
  embeddingQueue : EmbeddingQueueConfiguration
  hybrid : HybridConfiguration
  answer : AnswerConfiguration
  limits : LimitsConfiguration

/-! ## The loader -/

/-- `production`. -/
def isProduction (environment : Environment) : Bool :=
  environment "NODE_ENV" = some "production" &&
    !(environment "APP_ENV" = some "staging" && environment "STAGING_MODE" = some "local")

def assertProviderConfiguration (environment : Environment) (driver : AiProviderDriver) :
    Except String Unit :=
  match driver with
  | .openai => requireValue environment "OPENAI_API_KEY"
  | .gemini => requireValue environment "GOOGLE_GENERATIVE_AI_API_KEY"
  | .fake => .ok ()
  | .disabled => .ok ()

/-- The demands on a configuration for production. -/
def assertProduction (environment : Environment) (embeddingDriver answerDriver : AiProviderDriver)
    (vectorDriver : VectorDriver) (embeddingQueueDriver : EmbeddingQueueDriver)
    (requiredForReadiness : Bool) : Except String Unit := do
  requireValue environment "DOCUMENT_EMBEDDING_DRIVER"
  requireValue environment "DOCUMENT_VECTOR_DRIVER"
  requireValue environment "RAG_ANSWER_DRIVER"
  requireValue environment "DATABASE_URL"
  require (embeddingDriver ≠ .fake ∧ embeddingDriver ≠ .disabled)
    "Production document embeddings require a configured provider."
  require (answerDriver ≠ .fake ∧ answerDriver ≠ .disabled)
    "Production RAG answers require a configured provider."
  assertProviderConfiguration environment embeddingDriver
  assertProviderConfiguration environment answerDriver
  require (vectorDriver = .pgvector) "Production vector storage must use pgvector."
  require (embeddingQueueDriver = .redis)
    "Production embedding jobs must use the Redis external queue."
  require (requiredForReadiness = true) "Production RAG must be required for readiness."

/-- The checks on the selected drivers. -/
def assertDrivers (environment : Environment) (production : Bool)
    (embeddingDriver answerDriver : AiProviderDriver) (vectorDriver : VectorDriver)
    (embeddingQueueDriver : EmbeddingQueueDriver) (requiredForReadiness : Bool) :
    Except String Unit := do
  if production = true then
    assertProduction environment embeddingDriver answerDriver vectorDriver embeddingQueueDriver
      requiredForReadiness
  if vectorDriver = .pgvector then requireValue environment "DATABASE_URL"
  if embeddingQueueDriver = .postgresql then requireValue environment "DATABASE_URL"
  if embeddingQueueDriver = .redis then requireValue environment "REDIS_URL"
  require (¬(embeddingDriver = .disabled ∧ answerDriver ≠ .disabled))
    "RAG answers cannot be enabled while document embeddings are disabled."
  if production = false then
    assertProviderConfiguration environment embeddingDriver
    assertProviderConfiguration environment answerDriver

/-- The name of the embedding model that is asserted. -/
def embeddingModel (environment : Environment) (driver : AiProviderDriver) : String :=
  (setting environment "DOCUMENT_EMBEDDING_MODEL").getD
    (if driver = .openai then "text-embedding-3-small"
      else if driver = .gemini then "gemini-embedding-001"
      else "deterministic-hash-v1")

def loadEmbedding (runtime : EnvironmentRuntime) (environment : Environment)
    (driver : AiProviderDriver) : Except String EmbeddingConfiguration := do
  let model ← assertSafeIdentifier (embeddingModel environment driver)
    "DOCUMENT_EMBEDDING_MODEL" 200
  let dimensions ← parsePositiveInteger runtime environment "DOCUMENT_EMBEDDING_DIMENSIONS"
    (if driver = .openai then 1536 else 32)
  let version ← assertSafeIdentifier
    ((setting environment "DOCUMENT_EMBEDDING_VERSION").getD "embedding-v1")
    "DOCUMENT_EMBEDDING_VERSION" 100
  let batchSize ← parsePositiveInteger runtime environment "DOCUMENT_EMBEDDING_BATCH_SIZE" 32
  let timeoutMs ← parsePositiveInteger runtime environment "DOCUMENT_EMBEDDING_TIMEOUT_MS" 30000
  let maxAttempts ← parsePositiveInteger runtime environment "DOCUMENT_EMBEDDING_MAX_ATTEMPTS" 3
  let initialRetryMs ← parsePositiveInteger runtime environment
    "DOCUMENT_EMBEDDING_INITIAL_RETRY_MS" 1000
  let maximumRetryMs ← parsePositiveInteger runtime environment
    "DOCUMENT_EMBEDDING_MAX_RETRY_MS" 60000
  return { driver, model, dimensions, version, batchSize, timeoutMs, maxAttempts,
           initialRetryMs, maximumRetryMs }

def loadHybrid (runtime : EnvironmentRuntime) (environment : Environment)
    (lexicalWeight semanticWeight : ℚ) : Except String HybridConfiguration := do
  let topK ← parsePositiveInteger runtime environment "HYBRID_TOP_K" 12
  let maximumChunksPerDocument ← parsePositiveInteger runtime environment
    "HYBRID_MAX_CHUNKS_PER_DOCUMENT" 3
  let minimumScore ← parseUnitInterval runtime environment "HYBRID_MIN_SCORE" (1 / 5)
  let semanticSimilarityThreshold ← parseUnitInterval runtime environment
    "SEMANTIC_SIMILARITY_THRESHOLD" (1 / 4)
  return { lexicalWeight, semanticWeight, topK, maximumChunksPerDocument, minimumScore,
           semanticSimilarityThreshold }

def loadAnswer (runtime : EnvironmentRuntime) (environment : Environment)
    (driver : AiProviderDriver) : Except String AnswerConfiguration := do
  let model ← assertSafeIdentifier
    ((setting environment "RAG_ANSWER_MODEL").getD
      (if driver = .gemini then "gemini-3.6-flash" else "gpt-5-mini"))
    "RAG_ANSWER_MODEL" 200
  let maximumContextCharacters ← parsePositiveInteger runtime environment
    "RAG_MAX_CONTEXT_CHARACTERS" 18000
  let maximumOutputTokens ← parsePositiveInteger runtime environment "RAG_MAX_OUTPUT_TOKENS" 1000
  let timeoutMs ← parsePositiveInteger runtime environment "RAG_TIMEOUT_MS" 45000
  return { driver, model, maximumContextCharacters, maximumOutputTokens, timeoutMs }

def loadLimits (runtime : EnvironmentRuntime) (environment : Environment) (production : Bool) :
    Except String LimitsConfiguration := do
  let queryMaximumCharacters ← parsePositiveInteger runtime environment
    "RAG_QUERY_MAX_CHARACTERS" 2000
  let rateLimitPerMinute ← parsePositiveInteger runtime environment "AI_RATE_LIMIT_PER_MINUTE" 30
  let rateLimitPerDay ← parsePositiveInteger runtime environment "AI_RATE_LIMIT_PER_DAY" 5000
  let burstLimit ← parsePositiveInteger runtime environment "AI_RATE_LIMIT_BURST" 10
  let dailyBudgetEur ← parseNonNegativeNumber runtime environment "AI_DAILY_BUDGET_EUR"
    (if production then 25 else 0)
  let monthlyBudgetEur ← parseNonNegativeNumber runtime environment "AI_MONTHLY_BUDGET_EUR"
    (if production then 500 else 0)
  return { queryMaximumCharacters, rateLimitPerMinute, rateLimitPerDay, burstLimit,
           dailyBudgetEur, monthlyBudgetEur }

/-- `loadRagConfiguration`. -/
def loadRagConfiguration (runtime : EnvironmentRuntime) (environment : Environment) :
    Except String RagConfiguration := do
  let production := isProduction environment
  let embeddingDriver ← parseEnum aiProviderDrivers environment "DOCUMENT_EMBEDDING_DRIVER"
    (if production then .disabled else .fake)
  let vectorDriver ← parseEnum vectorDrivers environment "DOCUMENT_VECTOR_DRIVER"
    (if production then .pgvector else .memory)
  let answerDriver ← parseEnum aiProviderDrivers environment "RAG_ANSWER_DRIVER"
    (if production then .disabled else .fake)
  let embeddingQueueDriver ← parseEnum embeddingQueueDrivers environment
    "DOCUMENT_EMBEDDING_QUEUE_DRIVER"
    (if production then .redis else if vectorDriver = .pgvector then .postgresql else .local)
  let requiredForReadiness ← parseBoolean environment "DOCUMENT_RAG_REQUIRED_FOR_READINESS"
    production
  assertDrivers environment production embeddingDriver answerDriver vectorDriver
    embeddingQueueDriver requiredForReadiness
  let lexicalWeight ← parseUnitInterval runtime environment "HYBRID_LEXICAL_WEIGHT" (9 / 20)
  let semanticWeight ← parseUnitInterval runtime environment "HYBRID_SEMANTIC_WEIGHT" (11 / 20)
  require (0 < lexicalWeight + semanticWeight)
    "At least one hybrid retrieval weight must be greater than zero."
  let embedding ← loadEmbedding runtime environment embeddingDriver
  let leaseMs ← parsePositiveInteger runtime environment "DOCUMENT_EMBEDDING_LEASE_MS" 300000
  let pollMs ← parsePositiveInteger runtime environment "DOCUMENT_EMBEDDING_POLL_MS" 1000
  let hybrid ← loadHybrid runtime environment lexicalWeight semanticWeight
  let answer ← loadAnswer runtime environment answerDriver
  let limits ← loadLimits runtime environment production
  return { production, requiredForReadiness, embedding, hybrid, answer, limits
           dataDirectory := runtime.dataDirectory (setting environment "DOCUMENT_DATA_DIR")
           vector := vectorDriver
           embeddingQueue := { driver := embeddingQueueDriver, leaseMs, pollMs } }

/-! ## What a configuration that loads has -/

/-- The parts of a loaded configuration that later modules check again. -/
structure Loaded (runtime : EnvironmentRuntime) (environment : Environment)
    (configuration : RagConfiguration) : Prop where
  model : configuration.embedding.model =
    embeddingModel environment configuration.embedding.driver
  safeModel : isSafeIdentifier 200 configuration.embedding.model = true
  version : configuration.embedding.version =
    (setting environment "DOCUMENT_EMBEDDING_VERSION").getD "embedding-v1"
  safeVersion : isSafeIdentifier 100 configuration.embedding.version = true
  dimensions : parsePositiveInteger runtime environment "DOCUMENT_EMBEDDING_DIMENSIONS"
    (if configuration.embedding.driver = .openai then 1536 else 32) =
      .ok configuration.embedding.dimensions
  topK : parsePositiveInteger runtime environment "HYBRID_TOP_K" 12 = .ok configuration.hybrid.topK
  queryMaximumCharacters : parsePositiveInteger runtime environment "RAG_QUERY_MAX_CHARACTERS" 2000 =
    .ok configuration.limits.queryMaximumCharacters

section Loads

variable {runtime : EnvironmentRuntime} {environment : Environment}

theorem assertSafeIdentifier_eq_ok {value name result : String} {maximum : Nat} :
    assertSafeIdentifier value name maximum = .ok result ↔
      isSafeIdentifier maximum value = true ∧ result = value := by
  unfold assertSafeIdentifier
  split
  · next hsafe => simp [hsafe, eq_comm]
  · next hrefused => simp [hrefused]

theorem loadEmbedding_spec {driver : AiProviderDriver} {embedding : EmbeddingConfiguration}
    (h : loadEmbedding runtime environment driver = .ok embedding) :
    embedding.driver = driver ∧
      embedding.model = embeddingModel environment driver ∧
      isSafeIdentifier 200 embedding.model = true ∧
      embedding.version = (setting environment "DOCUMENT_EMBEDDING_VERSION").getD "embedding-v1" ∧
      isSafeIdentifier 100 embedding.version = true ∧
      parsePositiveInteger runtime environment "DOCUMENT_EMBEDDING_DIMENSIONS"
        (if driver = .openai then 1536 else 32) = .ok embedding.dimensions := by
  unfold loadEmbedding at h
  obtain ⟨model, hmodel, h⟩ := bind_eq_ok.mp h
  obtain ⟨dimensions, hdimensions, h⟩ := bind_eq_ok.mp h
  obtain ⟨version, hversion, h⟩ := bind_eq_ok.mp h
  obtain ⟨batchSize, -, h⟩ := bind_eq_ok.mp h
  obtain ⟨timeoutMs, -, h⟩ := bind_eq_ok.mp h
  obtain ⟨maxAttempts, -, h⟩ := bind_eq_ok.mp h
  obtain ⟨initialRetryMs, -, h⟩ := bind_eq_ok.mp h
  obtain ⟨maximumRetryMs, -, h⟩ := bind_eq_ok.mp h
  obtain ⟨hsafeModel, rfl⟩ := assertSafeIdentifier_eq_ok.mp hmodel
  obtain ⟨hsafeVersion, rfl⟩ := assertSafeIdentifier_eq_ok.mp hversion
  obtain rfl := Except.ok.inj h
  exact ⟨rfl, rfl, hsafeModel, rfl, hsafeVersion, hdimensions⟩

theorem loadHybrid_spec {lexicalWeight semanticWeight : ℚ} {hybrid : HybridConfiguration}
    (h : loadHybrid runtime environment lexicalWeight semanticWeight = .ok hybrid) :
    parsePositiveInteger runtime environment "HYBRID_TOP_K" 12 = .ok hybrid.topK := by
  unfold loadHybrid at h
  obtain ⟨topK, htopK, h⟩ := bind_eq_ok.mp h
  obtain ⟨maximumChunksPerDocument, -, h⟩ := bind_eq_ok.mp h
  obtain ⟨minimumScore, -, h⟩ := bind_eq_ok.mp h
  obtain ⟨threshold, -, h⟩ := bind_eq_ok.mp h
  obtain rfl := Except.ok.inj h
  exact htopK

theorem loadLimits_spec {production : Bool} {limits : LimitsConfiguration}
    (h : loadLimits runtime environment production = .ok limits) :
    parsePositiveInteger runtime environment "RAG_QUERY_MAX_CHARACTERS" 2000 =
      .ok limits.queryMaximumCharacters := by
  unfold loadLimits at h
  obtain ⟨queryMaximumCharacters, hquery, h⟩ := bind_eq_ok.mp h
  obtain ⟨rateLimitPerMinute, -, h⟩ := bind_eq_ok.mp h
  obtain ⟨rateLimitPerDay, -, h⟩ := bind_eq_ok.mp h
  obtain ⟨burstLimit, -, h⟩ := bind_eq_ok.mp h
  obtain ⟨dailyBudgetEur, -, h⟩ := bind_eq_ok.mp h
  obtain ⟨monthlyBudgetEur, -, h⟩ := bind_eq_ok.mp h
  obtain rfl := Except.ok.inj h
  exact hquery

theorem loadRagConfiguration_spec {configuration : RagConfiguration}
    (h : loadRagConfiguration runtime environment = .ok configuration) :
    Loaded runtime environment configuration := by
  unfold loadRagConfiguration at h
  dsimp only at h
  obtain ⟨embeddingDriver, -, h⟩ := bind_eq_ok.mp h
  obtain ⟨vectorDriver, -, h⟩ := bind_eq_ok.mp h
  obtain ⟨answerDriver, -, h⟩ := bind_eq_ok.mp h
  obtain ⟨embeddingQueueDriver, -, h⟩ := bind_eq_ok.mp h
  obtain ⟨requiredForReadiness, -, h⟩ := bind_eq_ok.mp h
  obtain ⟨-, h⟩ := seq_eq_ok.mp h
  obtain ⟨lexicalWeight, -, h⟩ := bind_eq_ok.mp h
  obtain ⟨semanticWeight, -, h⟩ := bind_eq_ok.mp h
  obtain ⟨-, h⟩ := seq_eq_ok.mp h
  obtain ⟨embedding, hembedding, h⟩ := bind_eq_ok.mp h
  obtain ⟨leaseMs, -, h⟩ := bind_eq_ok.mp h
  obtain ⟨pollMs, -, h⟩ := bind_eq_ok.mp h
  obtain ⟨hybrid, hhybrid, h⟩ := bind_eq_ok.mp h
  obtain ⟨answer, -, h⟩ := bind_eq_ok.mp h
  obtain ⟨limits, hlimits, h⟩ := bind_eq_ok.mp h
  obtain rfl := Except.ok.inj h
  obtain ⟨rfl, hmodel, hsafeModel, hversion, hsafeVersion, hdimensions⟩ :=
    loadEmbedding_spec hembedding
  exact ⟨hmodel, hsafeModel, hversion, hsafeVersion, hdimensions, loadHybrid_spec hhybrid,
    loadLimits_spec hlimits⟩

end Loads

end AvantimePlatform.Rag.Loading
