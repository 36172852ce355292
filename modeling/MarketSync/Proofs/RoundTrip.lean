import Mathlib.Data.List.Nodup
import MarketSync.Config.Codec
import MarketSync.Proofs.JsonText

/-!
# Configurations survive serialization

A configuration is written as a record of all its fields, null where something is absent. What was written is read as
the same configuration, also if some of the nulls have been dropped on the way: reading a field leads from one draft to
the next whatever stands behind it, and a null leads nowhere.

* `Pruned` — what is left of a document when fields that are null are dropped.
* `Builds.readRecord` — a record is read field by field, whether or not its nulls are there.
* `decodeTokens_pruned`, `decodeDefinition_pruned` — token registries and definitions are read back.
* `Config.decode_pruned` — configurations are read back.
* `Config.eq_of_pruned` — what is left tells configurations apart.
* `Config.survives_json` — a configuration is read back from its JSON text.
-/

namespace MarketSync

namespace Document

open Value

/-! ## Dropping nulls -/

/-- The entries of a record without some of those that are null, the other values changed as `R` says. -/
inductive Kept (R : Value → Value → Prop) : List (String × Value) → List (String × Value) → Prop
  | nil : Kept R [] []
  | keep {name : String} {v w : Value} {entries rest : List (String × Value)} (value : R v w)
      (others : Kept R entries rest) : Kept R ((name, v) :: entries) ((name, w) :: rest)
  | drop {name : String} {entries rest : List (String × Value)} (others : Kept R entries rest) :
      Kept R ((name, .null) :: entries) rest

/-- What may be left of a document when fields that are null are dropped, at any depth. -/
inductive Pruned : Value → Value → Prop
  | same (v : Value) : Pruned v v
  | list {vs ws : List Value} (items : List.Forall₂ Pruned vs ws) : Pruned (.list vs) (.list ws)
  | record {entries rest : List (String × Value)} (fields : Kept Pruned entries rest) :
      Pruned (.record entries) (.record rest)

theorem Kept.refl {R : Value → Value → Prop} (hR : ∀ v, R v v) : ∀ entries, Kept R entries entries
  | [] => .nil
  | (_, v) :: entries => .keep (hR v) (Kept.refl hR entries)

namespace Pruned

variable {v w : Value}

theorem eq_of_single (h : Pruned v w) (hsingle : v.isCompound = false) : w = v := by
  cases h with
  | same => rfl
  | list _ => cases hsingle
  | record _ => cases hsingle

theorem exists_items {vs : List Value} (h : Pruned (.list vs) w) : ∃ ws, w = .list ws ∧ List.Forall₂ Pruned vs ws := by
  cases h with
  | same => exact ⟨vs, rfl, List.forall₂_same.2 fun v _ => .same v⟩
  | list items => exact ⟨_, rfl, items⟩

theorem exists_fields {entries : List (String × Value)} (h : Pruned (.record entries) w) :
    ∃ rest, w = .record rest ∧ Kept Pruned entries rest := by
  cases h with
  | same => exact ⟨entries, rfl, Kept.refl .same entries⟩
  | record fields => exact ⟨_, rfl, fields⟩

/-- What reads the value reads what is left of it, if it is a single one. -/
theorem read_single {α : Type} {read : Value → Except DecodeError α} {a : α} (h : Pruned v w)
    (hsingle : v.isCompound = false) (hread : read v = .ok a) : read w = .ok a := by
  rw [h.eq_of_single hsingle, hread]

end Pruned

/-! ## Reading records -/

/-- One of the fields has the name, is read by `read`, and puts what was read into the draft by `set`. -/
def Describes {σ α : Type} (fields : List (RecordField σ)) (name : String) (read : Value → Except DecodeError α)
    (set : α → σ → σ) : Prop :=
  ∃ f ∈ fields, f.name = name ∧ ∀ v s, f.store v s = (read v).map fun a => set a s

/-- Reading the entries leads from one draft to another, whatever was pruned of the values, and a null changes
nothing. -/
inductive Builds {σ : Type} (fields : List (RecordField σ)) : List (String × Value) → σ → σ → Prop
  | nil (s : σ) : Builds fields [] s s
  | cons {name : String} {v : Value} {entries : List (String × Value)} {s s' t : σ}
      (store : ∀ w, Pruned v w → storeField fields (name, w) s = .ok s') (null : v = .null → s' = s)
      (others : Builds fields entries s' t) : Builds fields ((name, v) :: entries) s t

section Fields

variable {σ α : Type} {fields : List (RecordField σ)} {entries rest : List (String × Value)} {s t : σ}
  {name : String} {v : Value} {a : α}

/-- Where names are distinct, an entry goes to the field of its name. -/
theorem Describes.storeField {read : Value → Except DecodeError α} {set : α → σ → σ}
    (h : Describes fields name read set) (hnames : (fields.map (·.name)).Nodup) (v : Value) (s : σ) :
    storeField fields (name, v) s = (read v).map fun a => set a s := by
  obtain ⟨f, hf, rfl, hstore⟩ := h
  have hfind : fields.find? (fun g => g.name == f.name) = some f := (find?_key_iff (·.name) hnames).2 ⟨hf, rfl⟩
  rw [Document.storeField, hfind]
  exact hstore v s

namespace Builds

/-- **A record is read field by field, whether or not its nulls are there.** -/
theorem readFields (h : Builds fields entries s t) (hkept : Kept Pruned entries rest) :
    readFields fields rest s = .ok t := by
  induction h generalizing rest with
  | nil s =>
    cases hkept
    rfl
  | cons store null others ih =>
    cases hkept with
    | keep hvalue hrest =>
      rw [Document.readFields, store _ hvalue]
      exact ih hrest
    | drop hrest =>
      rw [← null rfl]
      exact ih hrest

theorem readRecord (h : Builds fields entries s t) (exactLists : Bool) {w : Value} (hpruned : Pruned (.record entries) w) :
    readRecord exactLists fields s w = .ok t := by
  obtain ⟨rest, rfl, hkept⟩ := hpruned.exists_fields
  exact h.readFields hkept

variable (hnames : (fields.map (·.name)).Nodup)
include hnames

theorem value {read : Value → Except DecodeError α} {set : α → σ → σ} (hfield : Describes fields name read set)
    (hread : ∀ w, Pruned v w → read w = .ok a) (hnull : v ≠ .null) (others : Builds fields entries (set a s) t) :
    Builds fields ((name, v) :: entries) s t := by
  refine .cons (fun w hw => ?_) (fun h => absurd h hnull) others
  rw [hfield.storeField hnames, hread w hw]
  rfl

theorem option {read : Value → Except DecodeError α} {set : Option α → σ → σ} {write : α → Value} {o : Option α}
    (hfield : Describes fields name (asOption read) set) (hread : ∀ a, read (write a) = .ok a)
    (hwrite : ∀ a, (write a).isCompound = false ∧ write a ≠ .null) (hnone : o = none → set none s = s)
    (others : Builds fields entries (set o s) t) : Builds fields ((name, ofOption write o) :: entries) s t := by
  cases o with
  | none =>
    refine .cons (fun w hw => ?_) (fun _ => hnone rfl) others
    rw [hfield.storeField hnames, hw.eq_of_single rfl]
    rfl
  | some a =>
    refine value hnames hfield (a := some a) (fun w hw => ?_) (hwrite a).2 others
    have hsome : asOption read (write a) = (read (write a)).map some := by
      unfold asOption
      split
      · rename_i hnull
        exact absurd hnull (hwrite a).2
      · rfl
    rw [hw.eq_of_single (hwrite a).1, ofOption, hsome, hread]
    rfl

end Builds

end Fields

theorem asList_pruned {α : Type} {read : Value → Except DecodeError α} {write : α → Value}
    (hread : ∀ a w, Pruned (write a) w → read w = .ok a) {as : List α} {w : Value}
    (h : Pruned (.list (as.map write)) w) : asList read w = .ok as := by
  obtain ⟨ws, rfl, hitems⟩ := h.exists_items
  clear h
  rw [asList]
  induction as generalizing ws with
  | nil =>
    cases hitems
    rfl
  | cons a as ih =>
    cases hitems with
    | cons hitem hrest =>
      rw [readItems, hread a _ hitem, ih _ hrest]
      rfl

end Document

open Document Value

variable {exactLists : Bool}

/-! ## Tokens -/

def tokenValue (address : Address) : Value :=
  .record [("address", .text address.lowerText)]

theorem decodeToken_pruned {address : Address} {v : Value} (h : Pruned (tokenValue address) v) :
    decodeToken exactLists v = .ok address := by
  have hbuilds : Builds (tokenFields exactLists) [("address", .text address.lowerText)] none (some address) :=
    .value (List.nodup_singleton _) ⟨_, List.mem_cons_self, rfl, fun _ _ => rfl⟩
      (fun w hw => hw.read_single rfl (asAddress_lowerText exactLists address)) Value.noConfusion (.nil _)
  rw [decodeToken, hbuilds.readRecord exactLists h]
  rfl

/-- Tokens with new symbols are put behind the ones that are there. -/
theorem decodeTokenEntries_pruned {entries : List (String × Address)} {rest : List (String × Value)}
    (h : Kept Pruned (entries.map fun e => (e.1, tokenValue e.2)) rest) {r t : TokenRegistry}
    (ht : t.entries = r.entries ++ entries) : decodeTokenEntries exactLists rest r = .ok t := by
  induction entries generalizing rest r with
  | nil =>
    cases h
    obtain ⟨_, _⟩ := r
    obtain ⟨_, _⟩ := t
    obtain rfl : _ = _ := ht.trans (List.append_nil _)
    rfl
  | cons entry entries ih =>
    have hnew : entry.1 ∉ r.keys := by
      have hdistinct := t.distinct
      rw [ht, List.map_append, List.map_cons, List.nodup_middle, List.nodup_cons] at hdistinct
      exact fun hmem => hdistinct.1 (List.mem_append_left _ hmem)
    cases h with
    | keep hvalue hrest =>
      rw [decodeTokenEntries, decodeToken_pruned hvalue]
      refine ih hrest ?_
      rw [ht, r.entries_insert_of_notMem hnew, List.append_assoc, List.singleton_append]

/-- **A token registry is read back, in its order.** -/
theorem decodeTokens_pruned {r : TokenRegistry} {v : Value} (h : Pruned r.encode v) :
    decodeTokens exactLists v = .ok r := by
  obtain ⟨rest, rfl, hkept⟩ := h.exists_fields
  exact decodeTokenEntries_pruned hkept (List.nil_append _).symm

/-! ## Definitions -/

theorem decodeMarketTokens_pruned {m : MarketTokens} {v : Value} (h : Pruned m.encode v) :
    decodeMarketTokens exactLists v = .ok m := by
  have hnames : (marketTokensFields.map (·.name)).Nodup := by decide
  have htext (s : String) (w : Value) (hw : Pruned (.text s) w) : asText w = .ok s := hw.read_single rfl rfl
  have hbuilds : Builds marketTokensFields
      [("index_token", .ofOption .text m.indexToken), ("long_token", .text m.longToken),
        ("short_token", .text m.shortToken)] {} ⟨m.indexToken, some m.longToken, some m.shortToken⟩ :=
    .option hnames ⟨_, .head _, rfl, fun _ _ => rfl⟩ (fun _ => rfl) (fun _ => ⟨rfl, Value.noConfusion⟩) (fun _ => rfl) <|
    .value hnames ⟨_, .tail _ (.head _), rfl, fun _ _ => rfl⟩ (htext m.longToken) Value.noConfusion <|
    .value hnames ⟨_, .tail _ (.tail _ (.head _)), rfl, fun _ _ => rfl⟩ (htext m.shortToken) Value.noConfusion <|
    .nil _
  rw [decodeMarketTokens, hbuilds.readRecord exactLists h]
  rfl

theorem nodup_definitionFields : ((definitionFields exactLists).map (·.name)).Nodup := by
  have hnames : (definitionFields exactLists).map (·.name) =
      ["tokens", "swap_only", "market_type"] ++ Param.all.map Param.field ++ ["token_market_id"] := rfl
  rw [hnames]
  decide +kernel

theorem Param.mem_all (p : Param) : p ∈ Param.all := by
  have hside (side : Side) : side ∈ Side.all := by cases side <;> decide
  have hcap (cap : PnlCap) : cap ∈ PnlCap.all := by cases cap <;> decide
  have hsign (sign : Sign) : sign ∈ Sign.all := by cases sign <;> decide
  cases p <;> simp [Param.all, hside, hcap, hsign]

def amountEntry (amounts : Param → Option Uint256) (p : Param) : String × Value :=
  (p.field, .ofOption .ofAmount (amounts p))

/-- The draft after some parameters of a definition have been read. -/
def DefinitionDraft.known (draft : DefinitionDraft) (amounts : Param → Option Uint256) (ps : List Param) :
    DefinitionDraft :=
  { draft with amounts := fun p => if p ∈ ps then amounts p else none }

theorem describes_param (p : Param) : Describes (definitionFields exactLists) p.field (asOption asAmount)
    fun n d => { d with amounts := fun q => if q = p then n else d.amounts q } :=
  ⟨paramField p, List.mem_append_left _ (List.mem_append_right _ (List.mem_map_of_mem p.mem_all)), rfl,
    fun _ _ => rfl⟩

section
variable {draft t : DefinitionDraft} {amounts : Param → Option Uint256}

theorem DefinitionDraft.set_known (p : Param) (ps : List Param) :
    { draft.known amounts ps with amounts := fun q => if q = p then amounts p else (draft.known amounts ps).amounts q } =
      draft.known amounts (ps ++ [p]) := by
  refine congrArg (fun amounts => { draft with amounts := amounts }) (funext fun q => ?_)
  by_cases hq : q = p
  · simp [hq]
  · simp [hq, known]

theorem DefinitionDraft.set_known_none {p : Param} (h : amounts p = none) (ps : List Param) :
    { draft.known amounts ps with amounts := fun q => if q = p then none else (draft.known amounts ps).amounts q } =
      draft.known amounts ps := by
  refine congrArg (fun amounts => { draft with amounts := amounts }) (funext fun q => ?_)
  by_cases hq : q = p
  · simp [hq, h]
  · simp [hq, known]

/-- Parameters are read one after the other, each into its own place. -/
theorem builds_amounts {entries : List (String × Value)} :
    ∀ ps done : List Param, Builds (definitionFields exactLists) entries (draft.known amounts (done ++ ps)) t →
      Builds (definitionFields exactLists) (ps.map (amountEntry amounts) ++ entries) (draft.known amounts done) t
  | [], done, others => by rwa [List.append_nil] at others
  | p :: ps, done, others => by
    refine .option nodup_definitionFields (describes_param p) asAmount_ofAmount (fun _ => ⟨rfl, Value.noConfusion⟩)
      (fun h => DefinitionDraft.set_known_none h done) ?_
    rw [DefinitionDraft.set_known]
    exact builds_amounts ps (done ++ [p]) (by rwa [List.append_assoc])

end

/-- **A definition is read back: what is absent stays absent, and an amount of zero stays zero.** -/
theorem decodeDefinition_pruned {d : Definition} {v : Value} (h : Pruned d.encode v) :
    decodeDefinition exactLists v = .ok d := by
  have hnames : ((definitionFields exactLists).map (·.name)).Nodup := nodup_definitionFields
  let read : DefinitionDraft := ⟨some d.tokens, d.swapOnly, d.marketType, fun _ => none, none⟩
  have hall : read.known d.amounts Param.all = { read with amounts := d.amounts } :=
    congrArg (fun amounts => { read with amounts := amounts }) (funext fun p => if_pos p.mem_all)
  have hlast : Builds (definitionFields exactLists)
      [("token_market_id", .ofOption (fun w => .text w.text) d.virtualMarketId)] (read.known d.amounts Param.all)
      ⟨some d.tokens, d.swapOnly, d.marketType, d.amounts, d.virtualMarketId⟩ := by
    rw [hall]
    exact .option hnames ⟨_, List.mem_append_right _ (.head _), rfl, fun _ _ => rfl⟩ (asBytes32_text exactLists)
      (fun _ => ⟨rfl, Value.noConfusion⟩) (fun _ => rfl) (.nil _)
  have hbuilds : Builds (definitionFields exactLists) ([("tokens", d.tokens.encode), ("swap_only", .flag d.swapOnly),
      ("market_type", .ofOption .text d.marketType)] ++ Param.all.map (amountEntry d.amounts) ++
      [("token_market_id", .ofOption (fun w => .text w.text) d.virtualMarketId)]) {}
      ⟨some d.tokens, d.swapOnly, d.marketType, d.amounts, d.virtualMarketId⟩ := by
    rw [List.append_assoc]
    exact .value hnames ⟨_, .head _, rfl, fun _ _ => rfl⟩ (fun _ => decodeMarketTokens_pruned) Value.noConfusion <|
      .value hnames ⟨_, .tail _ (.head _), rfl, fun _ _ => rfl⟩ (fun w hw => hw.read_single rfl rfl)
        Value.noConfusion <|
      .option hnames ⟨_, .tail _ (.tail _ (.head _)), rfl, fun _ _ => rfl⟩ (fun _ => rfl)
        (fun _ => ⟨rfl, Value.noConfusion⟩) (fun _ => rfl) <|
      builds_amounts Param.all [] hlast
  rw [decodeDefinition, hbuilds.readRecord exactLists h]
  rfl

/-! ## Configurations -/

theorem decodeGeneral_pruned {g : GeneralSection} {v : Value} (h : Pruned g.encode v) :
    decodeGeneral exactLists v = .ok g := by
  have hnames : (generalFields.map (·.name)).Nodup := List.nodup_singleton _
  have hbuilds : Builds generalFields [("token_transfer_gas_limit", .ofOption .ofAmount g.tokenTransferGasLimit)]
      ⟨none⟩ g :=
    .option hnames ⟨_, .head _, rfl, fun _ _ => rfl⟩ asAmount_ofAmount
      (fun _ => ⟨rfl, Value.noConfusion⟩) (fun _ => rfl) (.nil _)
  exact hbuilds.readRecord exactLists h

namespace Config

variable {c : Config} {v : Value}

/-- **A configuration is read back from what it was written as, whichever nulls have been dropped.** -/
theorem decode_pruned (h : Pruned c.encode v) : decode exactLists v = .ok c := by
  have hnames : ((configFields exactLists).map (·.name)).Nodup := by
    show ["general", "tokens", "markets"].Nodup
    decide
  have hbuilds : Builds (configFields exactLists) [("general", c.general.encode), ("tokens", c.tokens.encode),
      ("markets", .list (c.markets.map Definition.encode))] .empty c :=
    .value hnames ⟨_, .head _, rfl, fun _ _ => rfl⟩ (fun _ => decodeGeneral_pruned) Value.noConfusion <|
    .value hnames ⟨_, .tail _ (.head _), rfl, fun _ _ => rfl⟩ (fun _ => decodeTokens_pruned) Value.noConfusion <|
    .value hnames ⟨_, .tail _ (.tail _ (.head _)), rfl, fun _ _ => rfl⟩
      (fun _ => asList_pruned fun _ _ => decodeDefinition_pruned) Value.noConfusion <|
    .nil _
  exact hbuilds.readRecord exactLists h

/-- **What is left of it tells a configuration from any other.** -/
theorem eq_of_pruned {c' : Config} (h : Pruned c.encode v) (h' : Pruned c'.encode v) : c' = c := by
  have hread : decode true v = .ok c' := decode_pruned h'
  rw [decode_pruned h] at hread
  exact (Except.ok.inj hread).symm

/-- **Configurations survive serialization: whichever nulls have been dropped of the document, none of them or all, its
JSON text is read as the configuration that was written. Nothing that is left stands for another configuration, with a
zero for what is absent or the other way round.** The reader of JSON texts is any that gives back the document. -/
theorem survives_json {ε : Type} (read : String → Except ε Value) (hpruned : Pruned c.encode v)
    (hread : read (Json.text v) = .ok v) :
    (read (Json.text v)).map (decode true) = .ok (.ok c) ∧ ∀ c' : Config, Pruned c'.encode v → c' = c := by
  refine ⟨?_, fun c' h' => eq_of_pruned hpruned h'⟩
  rw [hread, ← decode_pruned hpruned]
  rfl

/-- A configuration with one market, of which only one factor is given, as zero. -/
def zeroFactor : Config where
  general := ⟨none⟩
  tokens := ⟨[("WETH", 0xe1)], by decide⟩
  markets := [⟨⟨none, "WETH", "WETH"⟩, true, none, fun p => if p = .positionFeeFactor then some 0 else none, none⟩]

/-- What is left of it without any nulls. -/
def zeroFactorDocument : Value :=
  .record [("general", .record []), ("tokens", .record [("WETH", tokenValue 0xe1)]),
    ("markets", .list [.record [("tokens", .record [("long_token", .text "WETH"), ("short_token", .text "WETH")]),
      ("swap_only", .flag true), ("position_fee_factor", .text "0")]])]

theorem zeroFactorDocument_pruned : Pruned zeroFactor.encode zeroFactorDocument := by
  have hzero : Uint256.text 0 = "0" := by
    rw [Uint256.text, Text.decimal, Text.digits]
    rfl
  have hfactor : Pruned (.ofAmount 0) (.text "0") := by
    rw [ofAmount, hzero]
    exact .same _
  refine .record (.keep (.record (.drop .nil)) (.keep (.same _) (.keep (.list (.cons (.record ?_) .nil)) .nil)))
  refine .keep (.record (.drop (.keep (.same _) (.keep (.same _) .nil)))) (.keep (.same _) ?_)
  -- all other parameters are null
  repeat refine .drop ?_
  refine .keep hfactor ?_
  repeat refine .drop ?_
  exact .nil

/-- A configuration is read back from its JSON text, with its one zero. -/
theorem zeroFactor_survives : Pruned zeroFactor.encode zeroFactorDocument ∧
    Json.read (Json.text zeroFactorDocument) = .ok zeroFactorDocument ∧
    (Json.read (Json.text zeroFactorDocument)).map (decode true) = .ok (.ok zeroFactor) := by
  have hplain : Json.Plain zeroFactorDocument := by
    simp [zeroFactorDocument, tokenValue]
  have hread := Json.read_text hplain
  exact ⟨zeroFactorDocument_pruned, hread, (survives_json Json.read zeroFactorDocument_pruned hread).1⟩

end Config

end MarketSync
