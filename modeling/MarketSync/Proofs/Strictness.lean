import MarketSync.Proofs.FieldEdits

/-!
# No field of a configuration is overlooked

A configuration is a tree of objects: the root, the general section, the tokens with an entry for each symbol, and the
definitions with their token symbols. Each object but the table of tokens has fixed names. A name that is misspelt is a
fault that says so, wherever in the tree it stands; a required field that is left out is a fault too; and any other
field may be left out, which sets it to its default and nothing else.

* `Site`, `Gap` — the objects of a configuration, and the documents around them.
* `Config.without` — a configuration with the default for one field.
* `strict_root`, `strict_general`, `strict_tokens`, `strict_token`, `strict_definition`, `strict_marketTokens` — how
  each kind of object is read.
* `Config.fields_strict` — how a configuration is read with one field more or less in any of its objects.
-/

namespace MarketSync

open Document

/-! ## Defaults -/

/-- A table without a key. -/
def Table.erase {κ α : Type} [DecidableEq κ] (t : Table κ α) (key : κ) : Table κ α where
  entries := t.entries.filter fun e => e.1 ≠ key
  distinct := t.distinct.sublist (List.filter_sublist.map _)

def GeneralSection.without (name : String) (g : GeneralSection) : GeneralSection where
  tokenTransferGasLimit := if name = "token_transfer_gas_limit" then none else g.tokenTransferGasLimit

def MarketTokens.without (name : String) (t : MarketTokens) : MarketTokens :=
  { t with indexToken := if name = "index_token" then none else t.indexToken }

def Definition.without (name : String) (d : Definition) : Definition where
  tokens := d.tokens
  swapOnly := if name = "swap_only" then false else d.swapOnly
  marketType := if name = "market_type" then none else d.marketType
  amounts p := if name = p.field then none else d.amounts p
  virtualMarketId := if name = "token_market_id" then none else d.virtualMarketId

/-- A configuration with the default for one of its sections. -/
def Config.withoutSection (name : String) (c : Config) : Config where
  general := if name = "general" then ⟨none⟩ else c.general
  tokens := if name = "tokens" then .empty else c.tokens
  markets := if name = "markets" then [] else c.markets

def MarketTokensDraft.without (name : String) (d : MarketTokensDraft) : MarketTokensDraft where
  indexToken := if name = "index_token" then none else d.indexToken
  longToken := if name = "long_token" then none else d.longToken
  shortToken := if name = "short_token" then none else d.shortToken

def DefinitionDraft.without (name : String) (d : DefinitionDraft) : DefinitionDraft where
  tokens := if name = "tokens" then none else d.tokens
  swapOnly := if name = "swap_only" then false else d.swapOnly
  marketType := if name = "market_type" then none else d.marketType
  amounts p := if name = p.field then none else d.amounts p
  virtualMarketId := if name = "token_market_id" then none else d.virtualMarketId

variable {exactLists : Bool} {entries : List (String × Value)}

/-! ## Tables without a key -/

section Erase

variable {κ α : Type} [DecidableEq κ]

theorem filter_putPair_self (key : κ) (a : α) (l : List (κ × α)) :
    (putPair key a l).filter (fun e => e.1 ≠ key) = l.filter fun e => e.1 ≠ key := by
  induction l with
  | nil => simp [putPair]
  | cons e l ih =>
    simp only [ne_eq, decide_not] at ih ⊢
    by_cases hkey : e.1 = key
    · simp [putPair, hkey]
    · simp [putPair, hkey, ih]

theorem filter_putPair_of_ne {key k : κ} (h : k ≠ key) (a : α) (l : List (κ × α)) :
    (putPair k a l).filter (fun e => e.1 ≠ key) = putPair k a (l.filter fun e => e.1 ≠ key) := by
  induction l with
  | nil => simp [putPair, h]
  | cons e l ih =>
    simp only [ne_eq, decide_not] at ih ⊢
    by_cases hput : e.1 = k
    · simp [putPair, hput, h]
    · by_cases hkey : e.1 = key
      · simp [putPair, hkey, Ne.symm h, ih]
      · simp [putPair, hput, hkey, ih]

theorem Table.erase_insert_self (t : Table κ α) (key : κ) (a : α) : (t.insert key a).erase key = t.erase key := by
  apply Table.ext
  exact filter_putPair_self key a t.entries

theorem Table.erase_insert_of_ne (t : Table κ α) {key k : κ} (h : k ≠ key) (a : α) :
    (t.insert k a).erase key = (t.erase key).insert k a := by
  apply Table.ext
  exact filter_putPair_of_ne h a t.entries

end Erase

/-! ## Fields put their values in places of their own -/

theorem forgets_section (name : String) : Forgets (configFields exactLists) name (Config.withoutSection name) := by
  intro f hf
  simp only [configFields, List.mem_cons, List.not_mem_nil, or_false] at hf
  rcases hf with rfl | rfl | rfl
  all_goals
    apply RecordField.withDefault_forgotten
    intro a c
    split <;> simp [Config.withoutSection, *]

theorem forgets_general (name : String) : Forgets generalFields name (GeneralSection.without name) := by
  intro f hf
  rw [List.mem_singleton.1 hf]
  apply RecordField.of_forgotten
  intro a g
  split <;> simp [GeneralSection.without, *]

theorem forgets_token (name : String) :
    Forgets (tokenFields exactLists) name fun address => if name = "address" then none else address := by
  intro f hf
  rw [List.mem_singleton.1 hf]
  apply RecordField.of_forgotten
  intro a address
  split <;> simp [*]

theorem forgets_marketTokens (name : String) : Forgets marketTokensFields name (MarketTokensDraft.without name) := by
  intro f hf
  simp only [marketTokensFields, List.mem_cons, List.not_mem_nil, or_false] at hf
  rcases hf with rfl | rfl | rfl
  all_goals
    apply RecordField.of_forgotten
    intro a d
    split <;> simp [MarketTokensDraft.without, *]

/-- A setter of one parameter is undone if the parameter has the name. -/
theorem amounts_forgotten (name : String) (p : Param) (n : Option Uint256) (amounts : Param → Option Uint256) :
    (fun q => if name = q.field then none else if q = p then n else amounts q) =
      if name = p.field then fun q => if name = q.field then none else amounts q
      else fun q => if q = p then n else if name = q.field then none else amounts q := by
  split
  all_goals
    rename_i hname
    funext q
    by_cases hq : q = p
    · simp [hq, hname]
    · simp [hq]

theorem forgets_definition (name : String) :
    Forgets (definitionFields exactLists) name (DefinitionDraft.without name) := by
  intro f hf
  simp only [definitionFields, List.mem_append, List.mem_cons, List.mem_map, List.not_mem_nil, or_false] at hf
  rcases hf with ((rfl | rfl | rfl) | ⟨p, -, rfl⟩) | rfl
  case inl.inl.inr.inl =>
    apply RecordField.withDefault_forgotten
    intro a d
    split <;> simp [DefinitionDraft.without, *]
  case inl.inr =>
    apply RecordField.of_forgotten
    intro n d
    by_cases hname : name = p.field
    · simp only [DefinitionDraft.without, amounts_forgotten, if_pos hname]
    · simp only [DefinitionDraft.without, amounts_forgotten, if_neg hname]
  all_goals
    apply RecordField.of_forgotten
    intro a d
    split <;> simp [DefinitionDraft.without, *]

theorem nodup_configFields : ((configFields exactLists).map (·.name)).Nodup := by
  show ["general", "tokens", "markets"].Nodup
  decide

/-- The sections of a configuration stand apart from each other. -/
theorem owns_general : Owns (configFields exactLists) "general" (decodeGeneral exactLists)
    fun g c => { c with general := g } := by
  apply Owns.of_describes nodup_configFields
  · exact ⟨_, .head _, rfl, fun _ _ => rfl⟩
  · intro g f hf
    simp only [configFields, List.mem_cons, List.not_mem_nil, or_false] at hf
    rcases hf with rfl | rfl | rfl
    all_goals
      apply RecordField.withDefault_forgotten
      simp

theorem owns_tokens : Owns (configFields exactLists) "tokens" (decodeTokens exactLists)
    fun t c => { c with tokens := t } := by
  apply Owns.of_describes nodup_configFields
  · exact ⟨_, .tail _ (.head _), rfl, fun _ _ => rfl⟩
  · intro t f hf
    simp only [configFields, List.mem_cons, List.not_mem_nil, or_false] at hf
    rcases hf with rfl | rfl | rfl
    all_goals
      apply RecordField.withDefault_forgotten
      simp

theorem owns_markets : Owns (configFields exactLists) "markets" (Value.asList (decodeDefinition exactLists))
    fun m c => { c with markets := m } := by
  apply Owns.of_describes nodup_configFields
  · exact ⟨_, .tail _ (.tail _ (.head _)), rfl, fun _ _ => rfl⟩
  · intro m f hf
    simp only [configFields, List.mem_cons, List.not_mem_nil, or_false] at hf
    rcases hf with rfl | rfl | rfl
    all_goals
      apply RecordField.withDefault_forgotten
      simp

theorem owns_marketTokens : Owns (definitionFields exactLists) "tokens" (decodeMarketTokens exactLists)
    fun t d => { d with tokens := some t } := by
  apply Owns.of_describes nodup_definitionFields
  · exact ⟨_, .head _, rfl, fun _ _ => rfl⟩
  · intro t f hf
    simp only [definitionFields, List.mem_append, List.mem_cons, List.mem_map, List.not_mem_nil, or_false] at hf
    rcases hf with ((rfl | rfl | rfl) | ⟨p, -, rfl⟩) | rfl
    case inl.inl.inr.inl =>
      apply RecordField.withDefault_forgotten
      simp
    case inl.inr =>
      have hfield : "tokens" ≠ p.field := (by decide +kernel : ∀ p ∈ Param.all, "tokens" ≠ p.field) p p.mem_all
      apply RecordField.of_forgotten
      simp [hfield]
    all_goals
      apply RecordField.of_forgotten
      simp

/-! ## Drafts and what is made of them -/

def MarketTokensDraft.complete (d : MarketTokensDraft) : Except DecodeError MarketTokens :=
  match required "long_token" d.longToken, required "short_token" d.shortToken with
  | .error e, _ => .error e
  | .ok _, .error e => .error e
  | .ok long, .ok short => .ok ⟨d.indexToken, long, short⟩

def DefinitionDraft.complete (d : DefinitionDraft) : Except DecodeError Definition :=
  (required "tokens" d.tokens).map fun tokens => ⟨tokens, d.swapOnly, d.marketType, d.amounts, d.virtualMarketId⟩

theorem decodeToken_eq (v : Value) : decodeToken exactLists v =
    (readRecord exactLists (tokenFields exactLists) none v).bind (required "address") := by
  unfold decodeToken
  cases readRecord exactLists (tokenFields exactLists) none v <;> rfl

theorem decodeMarketTokens_eq (v : Value) : decodeMarketTokens exactLists v =
    (readRecord exactLists marketTokensFields {} v).bind MarketTokensDraft.complete := by
  unfold decodeMarketTokens
  cases readRecord exactLists marketTokensFields {} v <;> rfl

theorem decodeDefinition_eq (v : Value) : decodeDefinition exactLists v =
    (readRecord exactLists (definitionFields exactLists) {} v).bind DefinitionDraft.complete := by
  unfold decodeDefinition
  cases readRecord exactLists (definitionFields exactLists) {} v <;> rfl

theorem MarketTokensDraft.complete_eq_ok_iff {d : MarketTokensDraft} {m : MarketTokens} :
    d.complete = .ok m ↔ d = ⟨m.indexToken, some m.longToken, some m.shortToken⟩ := by
  obtain ⟨index, long, short⟩ := d
  obtain ⟨index', long', short'⟩ := m
  cases long <;> cases short <;> simp [complete, required]

theorem DefinitionDraft.complete_eq_ok_iff {draft : DefinitionDraft} {d : Definition} :
    draft.complete = .ok d ↔ draft = ⟨some d.tokens, d.swapOnly, d.marketType, d.amounts, d.virtualMarketId⟩ := by
  obtain ⟨tokens, swapOnly, marketType, amounts, virtualMarketId⟩ := draft
  obtain ⟨tokens', swapOnly', marketType', amounts', virtualMarketId'⟩ := d
  cases tokens <;> simp [complete, required, Except.map]

/-! ## Each kind of object -/

theorem strict_root {c : Config} (h : Config.decode exactLists (.record entries) = .ok c) :
    Strict (fun es => Config.decode exactLists (.record es)) entries (some ["general", "tokens", "markets"]) []
      fun name => c.withoutSection name := by
  apply strict_of_readFields (fun es => (bind_pure _).symm) h forgets_section
  · intro name
    simp [Config.withoutSection, Config.empty]
  · intro t ht name hname
    cases hname
  · intro t ht name hname
    cases ht
    rfl

theorem strict_general {g : GeneralSection} (h : decodeGeneral exactLists (.record entries) = .ok g) :
    Strict (fun es => decodeGeneral exactLists (.record es)) entries (some ["token_transfer_gas_limit"]) []
      fun name => g.without name := by
  apply strict_of_readFields (fun es => (bind_pure _).symm) h forgets_general
  · intro name
    simp [GeneralSection.without]
  · intro t ht name hname
    cases hname
  · intro t ht name hname
    cases ht
    rfl

theorem strict_token {address : Address} (h : decodeToken exactLists (.record entries) = .ok address) :
    Strict (fun es => decodeToken exactLists (.record es)) entries (some ["address"]) ["address"]
      fun _ => address := by
  apply strict_of_readFields (fun es => decodeToken_eq (.record es)) h forgets_token
  · intro name
    simp
  · intro t ht name hname
    rw [List.mem_singleton.1 hname]
    rfl
  · intro t ht name hname
    rw [if_neg (by simpa using hname)]
    exact ht

theorem strict_marketTokens {m : MarketTokens} (h : decodeMarketTokens exactLists (.record entries) = .ok m) :
    Strict (fun es => decodeMarketTokens exactLists (.record es)) entries
      (some ["index_token", "long_token", "short_token"]) ["long_token", "short_token"] fun name => m.without name := by
  apply strict_of_readFields (fun es => decodeMarketTokens_eq (.record es)) h forgets_marketTokens
  · intro name
    simp [MarketTokensDraft.without]
  · intro d hd name hname
    rw [MarketTokensDraft.complete_eq_ok_iff.1 hd]
    simp only [List.mem_cons, List.not_mem_nil, or_false] at hname
    rcases hname with rfl | rfl
    · rfl
    · rfl
  · intro d hd name hname
    rw [MarketTokensDraft.complete_eq_ok_iff.1 hd, MarketTokensDraft.complete_eq_ok_iff]
    simp only [List.mem_cons, List.not_mem_nil, or_false, not_or] at hname
    simp [MarketTokensDraft.without, MarketTokens.without, hname]

theorem strict_definition {d : Definition} (h : decodeDefinition exactLists (.record entries) = .ok d) :
    Strict (fun es => decodeDefinition exactLists (.record es)) entries
      (some (["tokens", "swap_only", "market_type"] ++ Param.all.map Param.field ++ ["token_market_id"])) ["tokens"]
      fun name => d.without name := by
  apply strict_of_readFields (fun es => decodeDefinition_eq (.record es)) h forgets_definition
  · intro name
    simp [DefinitionDraft.without]
  · intro draft hd name hname
    rw [DefinitionDraft.complete_eq_ok_iff.1 hd, List.mem_singleton.1 hname]
    rfl
  · intro draft hd name hname
    have htokens : name ≠ "tokens" := by simpa using hname
    rw [DefinitionDraft.complete_eq_ok_iff.1 hd, DefinitionDraft.complete_eq_ok_iff]
    simp [DefinitionDraft.without, Definition.without, htokens]

/-- A token that is taken away leaves a registry without its symbol. -/
theorem decodeTokenEntries_removed {r t : TokenRegistry} (h : decodeTokenEntries exactLists entries r = .ok t)
    (symbol : String) :
    decodeTokenEntries exactLists (entries.filter fun e => e.1 ≠ symbol) (r.erase symbol) = .ok (t.erase symbol) := by
  induction entries generalizing r with
  | nil =>
    cases h
    rfl
  | cons entry entries ih =>
    obtain ⟨name, v⟩ := entry
    rw [decodeTokenEntries] at h
    split at h
    · cases h
    · rename_i address haddress
      by_cases hentry : name = symbol
      · rw [List.filter_cons_of_neg (by simpa using hentry), ← ih h, hentry, Table.erase_insert_self]
      · rw [List.filter_cons_of_pos (by simpa using hentry), decodeTokenEntries, haddress, ← ih h,
          Table.erase_insert_of_ne _ hentry]

/-- The table of tokens takes every symbol. -/
theorem strict_tokens {r : TokenRegistry} (h : decodeTokens exactLists (.record entries) = .ok r) :
    Strict (fun es => decodeTokens exactLists (.record es)) entries none [] fun symbol => r.erase symbol where
  unknown names hnames := by cases hnames
  missing name hname := by cases hname
  default symbol hsymbol := decodeTokenEntries_removed h symbol

/-! ## Objects within a configuration -/

theorem exists_decodeTokenEntries {r t : TokenRegistry} (h : decodeTokenEntries exactLists entries r = .ok t)
    (r' : TokenRegistry) : ∃ t', decodeTokenEntries exactLists entries r' = .ok t' := by
  induction entries generalizing r r' with
  | nil => exact ⟨r', rfl⟩
  | cons entry entries ih =>
    obtain ⟨name, v⟩ := entry
    rw [decodeTokenEntries] at h ⊢
    split at h
    · cases h
    · exact ih h _

/-- A registry is read through each of its tokens. -/
theorem exists_decodeTokenEntries_replaced {before after : List (String × Value)} {symbol : String} {o : Value}
    {r t : TokenRegistry} (h : decodeTokenEntries exactLists (before ++ (symbol, o) :: after) r = .ok t) :
    ∃ put : Address → TokenRegistry, ∀ v,
      decodeTokenEntries exactLists (before ++ (symbol, v) :: after) r = (decodeToken exactLists v).map put := by
  induction before generalizing r with
  | nil =>
    rw [List.nil_append, decodeTokenEntries] at h
    split at h
    · cases h
    · choose put hput using exists_decodeTokenEntries h
      refine ⟨fun address => put (r.insert symbol address), ?_⟩
      intro v
      rw [List.nil_append, decodeTokenEntries]
      cases decodeToken exactLists v with
      | error e => rfl
      | ok address => exact hput _
  | cons entry before ih =>
    obtain ⟨name, w⟩ := entry
    rw [List.cons_append, decodeTokenEntries] at h
    split at h
    · cases h
    · rename_i address haddress
      obtain ⟨put, hput⟩ := ih h
      refine ⟨put, ?_⟩
      intro v
      rw [List.cons_append, decodeTokenEntries, haddress]
      exact hput v

/-- The names that a configuration may have. -/
def configNames : List String :=
  ["general", "tokens", "markets"]

/-- The names that a definition may have. -/
def definitionNames : List String :=
  ["tokens", "swap_only", "market_type"] ++ Param.all.map Param.field ++ ["token_market_id"]

/-- A definition is read through its token symbols. -/
theorem decodeDefinition_replaced {fill : Value → Value} (hfill : FieldOf definitionNames "tokens" fill) {o : Value}
    {d : Definition} (h : decodeDefinition exactLists (fill o) = .ok d) (v : Value) :
    decodeDefinition exactLists (fill v) = (decodeMarketTokens exactLists v).map fun t => { d with tokens := t } := by
  rw [decodeDefinition_eq] at h
  cases hread : readRecord exactLists (definitionFields exactLists) {} (fill o) with
  | error e =>
    rw [hread] at h
    cases h
  | ok draft =>
    rw [hread] at h
    have hdraft := DefinitionDraft.complete_eq_ok_iff.1 h
    rw [decodeDefinition_eq, owns_marketTokens.readRecord_replaced hfill hread v, hdraft]
    cases decodeMarketTokens exactLists v <;> rfl

/-- A configuration is read through its tokens. -/
theorem Config.decode_tokens_replaced {fill : Value → Value} (hfill : FieldOf configNames "tokens" fill) {o : Value}
    {c : Config} (h : Config.decode exactLists (fill o) = .ok c) :
    decodeTokens exactLists o = .ok c.tokens ∧
      ∀ v, Config.decode exactLists (fill v) = (decodeTokens exactLists v).map fun t => { c with tokens := t } := by
  have hwhole (v : Value) : Config.decode exactLists (fill v) =
      (decodeTokens exactLists v).map fun t => { c with tokens := t } :=
    owns_tokens.readRecord_replaced hfill h v
  obtain ⟨t, ht, hc⟩ := exists_of_map_ok ((hwhole o).symm.trans h)
  have htokens : c.tokens = t := congrArg Config.tokens hc.symm
  rw [htokens]
  exact ⟨ht, hwhole⟩

/-- A configuration is read through each of its definitions. -/
theorem Config.decode_replaced {fill : Value → Value} (hfill : FieldOf configNames "markets" fill)
    {before after : List Value} {o : Value} {c : Config}
    (h : Config.decode exactLists (fill (.list (before ++ o :: after))) = .ok c) :
    ∃ front d back, front.length = before.length ∧ c.markets = front ++ d :: back ∧
      decodeDefinition exactLists o = .ok d ∧ ∀ v, Config.decode exactLists (fill (.list (before ++ v :: after))) =
        (decodeDefinition exactLists v).map fun d => { c with markets := front ++ d :: back } := by
  have hwhole (v : Value) : Config.decode exactLists (fill v) =
      (Value.asList (decodeDefinition exactLists) v).map fun m => { c with markets := m } :=
    owns_markets.readRecord_replaced hfill h v
  obtain ⟨all, hall, hc⟩ := exists_of_map_ok ((hwhole _).symm.trans h)
  obtain ⟨front, back, hlength, hitems⟩ := readItems_replaced hall
  obtain ⟨d, hd, hfront⟩ := exists_of_map_ok ((hitems o).symm.trans hall)
  refine ⟨front, d, back, hlength, ?_, hd, ?_⟩
  · rw [← hc, hfront]
  · intro v
    have hlist : Value.asList (decodeDefinition exactLists) (.list (before ++ v :: after)) = _ := hitems v
    rw [hwhole, hlist]
    cases decodeDefinition exactLists v <;> rfl

/-! ## Every object of a configuration -/

/-- Where an object stands in a configuration. -/
inductive Site where
  | root
  | general
  | tokens
  /-- One of the tokens, under whatever symbol. -/
  | token
  | definition (i : ℕ)
  | tokensOf (i : ℕ)

namespace Site

def known : Site → Option (List String)
  | .root => some configNames
  | .general => some ["token_transfer_gas_limit"]
  | .tokens => none
  | .token => some ["address"]
  | .definition _ => some definitionNames
  | .tokensOf _ => some ["index_token", "long_token", "short_token"]

def required : Site → List String
  | .token => ["address"]
  | .definition _ => ["tokens"]
  | .tokensOf _ => ["long_token", "short_token"]
  | _ => []

end Site

/-- The documents that have any object in one place of a configuration and are the same everywhere else. -/
inductive Gap : Site → (Value → Value) → Prop
  | root : Gap .root fun v => v
  | general {fill : Value → Value} (field : FieldOf configNames "general" fill) : Gap .general fill
  | tokens {fill : Value → Value} (field : FieldOf configNames "tokens" fill) : Gap .tokens fill
  | token {fill : Value → Value} (field : FieldOf configNames "tokens" fill) (before after : List (String × Value))
      (symbol : String) : Gap .token fun v => fill (.record (before ++ (symbol, v) :: after))
  | definition {fill : Value → Value} (field : FieldOf configNames "markets" fill) (before after : List Value) :
      Gap (.definition before.length) fun v => fill (.list (before ++ v :: after))
  | tokensOf {fill inner : Value → Value} (field : FieldOf configNames "markets" fill) (before after : List Value)
      (part : FieldOf definitionNames "tokens" inner) :
      Gap (.tokensOf before.length) fun v => fill (.list (before ++ inner v :: after))

/-- A configuration with the default for a field of one of its objects. What is required has no default. -/
def Config.without (c : Config) (site : Site) (name : String) : Config :=
  match site with
  | .root => c.withoutSection name
  | .general => { c with general := c.general.without name }
  | .tokens => { c with tokens := c.tokens.erase name }
  | .token => c
  | .definition i => { c with markets := c.markets.modify i (Definition.without name) }
  | .tokensOf i => { c with markets := c.markets.modify i fun d => { d with tokens := d.tokens.without name } }

theorem modify_append_cons {α : Type} (f : α → α) (front : List α) (a : α) (back : List α) :
    (front ++ a :: back).modify front.length f = front ++ f a :: back := by
  induction front with
  | nil => rfl
  | cons b front ih => simp [ih]

/-- **No field of a configuration is overlooked.** In a document that is read as a configuration, a field more in any of
its objects, under a name that is not one of the object's, is a fault that names it, wherever in the object it stands and
whatever its value is; without a field that is required the document is refused with the name of what is missing; and
without any other field it is read as the same configuration with that field's default. -/
theorem Config.fields_strict {site : Site} {fill : Value → Value} (hgap : Gap site fill)
    {c : Config} (hread : Config.decode exactLists (fill (.record entries)) = .ok c) :
    Strict (fun es => Config.decode exactLists (fill (.record es))) entries site.known site.required
      fun name => c.without site name := by
  cases hgap with
  | root => exact strict_root hread
  | general field =>
    have hwhole (v : Value) : Config.decode exactLists (fill v) =
        (decodeGeneral exactLists v).map fun g => { c with general := g } :=
      owns_general.readRecord_replaced field hread v
    obtain ⟨g, hg, hc⟩ := exists_of_map_ok ((hwhole _).symm.trans hread)
    have hgeneral : c.general = g := congrArg Config.general hc.symm
    simp only [Config.without, hgeneral]
    exact (strict_general hg).through fun es => hwhole (.record es)
  | tokens field =>
    obtain ⟨htokens, hwhole⟩ := Config.decode_tokens_replaced field hread
    exact (strict_tokens htokens).through fun es => hwhole (.record es)
  | @token fill field before after symbol =>
    obtain ⟨htokens, hwhole⟩ := Config.decode_tokens_replaced field hread
    obtain ⟨put, hput⟩ := exists_decodeTokenEntries_replaced htokens
    obtain ⟨address, haddress, hsame⟩ := exists_of_map_ok ((hput _).symm.trans htokens)
    have hinner := (strict_token haddress).through fun es => hput (.record es)
    have houter := hinner.through fun es => hwhole (.record (before ++ (symbol, .record es) :: after))
    rw [hsame] at houter
    exact houter
  | definition field before after =>
    obtain ⟨front, d, back, hlength, hmarkets, hd, hwhole⟩ := Config.decode_replaced field hread
    have hdefault (name : String) : c.without (.definition before.length) name =
        { c with markets := front ++ d.without name :: back } := by
      simp only [Config.without, hmarkets, ← hlength, modify_append_cons]
    simp only [hdefault]
    exact (strict_definition hd).through fun es => hwhole (.record es)
  | @tokensOf fill inner field before after part =>
    obtain ⟨front, d, back, hlength, hmarkets, hd, hwhole⟩ := Config.decode_replaced field hread
    have hinner := decodeDefinition_replaced part hd
    obtain ⟨m, hm, hd'⟩ := exists_of_map_ok ((hinner _).symm.trans hd)
    have htokens : d.tokens = m := congrArg Definition.tokens hd'.symm
    have hdefault (name : String) : c.without (.tokensOf before.length) name =
        { c with markets := front ++ { d with tokens := m.without name } :: back } := by
      simp only [Config.without, hmarkets, ← hlength, modify_append_cons, htokens]
    simp only [hdefault]
    have hstrict := (strict_marketTokens hm).through fun es => hinner (.record es)
    exact hstrict.through fun es => hwhole (inner (.record es))

namespace Config

/-- The fields of the definition in `zeroFactorDocument`. -/
def zeroFactorFields : List (String × Value) :=
  [("tokens", .record [("long_token", .text "WETH"), ("short_token", .text "WETH")]), ("swap_only", .flag true),
    ("position_fee_factor", .text "0")]

/-- The document `zeroFactorDocument` around its definition. -/
def zeroFactorGap (v : Value) : Value :=
  .record [("general", .record []), ("tokens", .record [("WETH", tokenValue 0xe1)]), ("markets", .list [v])]

/-- A misspelt factor is refused, the token symbols are missed, and a factor that is left out is not set to zero. -/
theorem zeroFactor_misspelt : Gap (.definition 0) zeroFactorGap ∧
    decode true (zeroFactorGap (.record zeroFactorFields)) = .ok zeroFactor ∧
    decode true (zeroFactorGap (.record (zeroFactorFields ++ [("position_fee", .text "1")]))) =
      .error (.unknownField "position_fee" definitionNames) ∧
    decode true (zeroFactorGap (.record (zeroFactorFields.drop 1))) = .error (.missingField "tokens") ∧
    decode true (zeroFactorGap (.record (zeroFactorFields.take 2))) =
      .ok (zeroFactor.without (.definition 0) "position_fee_factor") := by
  have hgap : Gap (.definition 0) zeroFactorGap :=
    .definition (.named [("general", .record []), ("tokens", .record [("WETH", tokenValue 0xe1)])] [] (by decide)) [] []
  have hread : decode true (zeroFactorGap (.record zeroFactorFields)) = .ok zeroFactor :=
    decode_pruned zeroFactorDocument_pruned
  have hstrict := fields_strict hgap hread
  refine ⟨hgap, hread, ?_, ?_, ?_⟩
  · exact hstrict.unknown definitionNames rfl "position_fee" (by decide +kernel) (.text "1") zeroFactorFields []
      (List.append_nil _).symm
  · exact hstrict.missing "tokens" (by decide)
  · exact hstrict.default "position_fee_factor" (by decide)

end Config

end MarketSync
