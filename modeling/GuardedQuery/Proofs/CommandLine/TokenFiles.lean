import GuardedQuery.CommandLine.Run
import GuardedQuery.Proofs.Json.Settled
import GuardedQuery.Proofs.Query.Json

/-! # Files of tokens

A command line compiles the tokens in a file. The file holds them as a bare list or as a query, and
a query may hold a compiled form beside its tokens. What is printed is decided by the tokens alone. -/

namespace GuardedQuery

/-! ## Trees that are written -/

/-- A binary number is written as a number that is read back, or as null. -/
theorem Json.settles_ofBinary {f : Format} {layout : JsonNumber.Layout} {x : Binary f}
    (h : ∀ n, ofBinary layout x = .number n → (n.binary? f).isSome) (limit : Nat) :
    Settles limit (ofBinary layout x) := by
  by_cases hfinite : x.isFinite = true
  · obtain ⟨n, hn⟩ := Value.exists_number_of_isFinite layout hfinite
    rw [hn]
    exact settles_number_of_binary? (h n hn)
  · rw [Value.ofBinary_of_not_isFinite layout (Bool.not_eq_true _ ▸ hfinite)]
    exact settles_null

namespace Value

theorem settles_content {v : Value} {content : Json} (hcontent : v.content? = some content)
    (h : (ofContent? v.typeName content).isSome) (limit : Nat) : Json.Settles limit content := by
  cases v with
  | null => cases hcontent
  | bool b =>
      cases hcontent
      exact Json.settles_bool b
  | int16 n =>
      cases hcontent
      exact Json.settles_ofInt (show 16 ≤ 64 by decide) n.le_toInt (Int.le_sub_one_of_lt n.toInt_lt)
  | int32 n =>
      cases hcontent
      exact Json.settles_ofInt (show 32 ≤ 64 by decide) n.le_toInt (Int.le_sub_one_of_lt n.toInt_lt)
  | int64 n =>
      cases hcontent
      exact Json.settles_ofInt (show 64 ≤ 64 by decide) n.le_toInt (Int.le_sub_one_of_lt n.toInt_lt)
  | float32 x =>
      cases hcontent
      refine Json.settles_ofBinary (fun n hn => ?_) limit
      rw [hn] at h
      simpa [typeName, ofContent?] using h
  | float64 x =>
      cases hcontent
      refine Json.settles_ofBinary (fun n hn => ?_) limit
      rw [hn] at h
      simpa [typeName, ofContent?] using h
  | string s =>
      cases hcontent
      exact Json.settles_string s
  | date d =>
      cases hcontent
      exact Json.settles_string _
  | timestamp t =>
      cases hcontent
      exact Json.settles_string _

/-- A value whose record can be read is in range. -/
theorem settles_toJson {v : Value} (h : (ofJson? v.toJson).isSome) (limit : Nat) :
    Json.Settles (limit + 1) v.toJson := by
  rw [toJson] at h ⊢
  cases hcontent : v.content? with
  | none => exact Json.settles_object (by simp) (by simp [Json.settles_string])
  | some content =>
      rw [hcontent, ofJson?_record] at h
      have hsettles := settles_content hcontent h limit
      exact Json.settles_object (by simp) (by simp [Json.settles_string, hsettles])

end Value

theorem Token.settles_toJson (t : Token) (limit : Nat) : Json.Settles (limit + 1) t.toJson :=
  Json.settles_object (by simp) (by simp [Json.settles_string])

theorem Token.settles_array (tokens : List Token) (limit : Nat) :
    Json.Settles (limit + 2) (.array (tokens.map toJson)) :=
  Json.settles_array (by simpa using fun t _ => t.settles_toJson limit)

/-- A compiled query that can be read is in range. -/
theorem CompiledQuery.settles_toJson {q : CompiledQuery} (h : (ofJson? q.toJson).isSome)
    (limit : Nat) : Json.Settles (limit + 3) q.toJson := by
  have hvalues : ∀ v ∈ q.parameters, (Value.ofJson? v.toJson).isSome := by
    intro v hv
    by_contra hnone
    have hlist : (Json.array (q.parameters.map Value.toJson)).list? Value.ofJson? = none :=
      Json.list?_map_eq_none ⟨v, hv, Option.not_isSome_iff_eq_none.mp hnone⟩
    rw [ofJson?, toJson, Json.record?_object (by simp)] at h
    simp [List.lookup_cons, Json.string?, hlist] at h
  have hparameters : Json.Settles (limit + 2) (.array (q.parameters.map Value.toJson)) :=
    Json.settles_array (by simpa using fun v hv => Value.settles_toJson (hvalues v hv) limit)
  exact Json.settles_object (by simp) (by simp [Json.settles_string, hparameters])

/-! ## Files that hold tokens -/

/-- The tree of a text that is read without knowing its fields. -/
def Json.treeOf? (text : String) : Option Json :=
  (parse? text).bind (·.settled? nestingLimit)

theorem Json.treeOf?_compact {j : Json} (h : Settles nestingLimit j) :
    treeOf? j.compact = some j := by
  rw [treeOf?, parse?_compact]
  exact h

namespace Query

/-- A text holds tokens: as a bare list, as a query that is not compiled, or as a query with any
compiled form that can be read. The fields of a query may stand in either order. -/
inductive HeldIn (tokens : List Token) (text : String) : Prop
  | list {items : List Json} (htext : Json.treeOf? text = some (.array items))
      (htokens : items.mapM Token.ofJson? = some tokens)
  | query {items : List Json}
      (htext : Json.treeOf? text = some (.object [("tokens", .array items)]))
      (htokens : items.mapM Token.ofJson? = some tokens)
  | compiled {fields : List (String × Json)} {items : List Json} {form : Json}
      {compiled : CompiledQuery} (htext : Json.treeOf? text = some (.object fields))
      (hfields : fields.Perm [("tokens", .array items), ("compiled", form)])
      (htokens : items.mapM Token.ofJson? = some tokens)
      (hform : CompiledQuery.ofJson? form = some compiled)

theorem parseFile?_eq (text : String) :
    parseFile? text = (Json.treeOf? text).bind fun j =>
      match j with
      | .array _ => (j.list? Token.ofJson?).map ofTokens
      | _ => ofJson? j := by
  rw [parseFile?, Json.treeOf?]
  cases Json.parse? text <;> rfl

variable {tokens : List Token} {text : String}

/-- A file that holds tokens is read as a query with these tokens. -/
theorem HeldIn.exists_parseFile? (h : HeldIn tokens text) :
    ∃ stored, parseFile? text = some ⟨tokens, stored⟩ := by
  cases h with
  | list htext htokens =>
      refine ⟨none, ?_⟩
      rw [parseFile?_eq, htext, Option.bind_some, Json.list?, htokens]
      rfl
  | query htext htokens =>
      refine ⟨none, ?_⟩
      rw [parseFile?_eq, htext, Option.bind_some]
      simp only [ofJson?]
      rw [Json.record?_object (by simp)]
      simp [List.lookup_cons, Json.list?, htokens]
  | @compiled fields items form compiled htext hfields htokens hform =>
      refine ⟨some compiled, ?_⟩
      have hnames : (fields.map (·.1)).Nodup := by
        rw [(hfields.map (·.1)).nodup_iff]
        simp
      have hlist : fields.lookup "tokens" = some (.array items) :=
        Json.lookup_of_mem hnames (hfields.mem_iff.mpr (by simp))
      have hstored : fields.lookup "compiled" = some form :=
        Json.lookup_of_mem hnames (hfields.mem_iff.mpr (by simp))
      rw [parseFile?_eq, htext, Option.bind_some]
      simp only [ofJson?]
      rw [Json.record?_object hnames]
      simp only [List.map_cons, List.map_nil, hlist, hstored, Json.list?]
      -- a form that can be read is not null, which would stand for none
      cases form with
      | null => cases hform
      | _ => simp [hform, htokens]

/-! ### Texts that are written -/

theorem heldIn_list (tokens : List Token) :
    HeldIn tokens (Json.array (tokens.map Token.toJson)).compact :=
  .list (Json.treeOf?_compact (Token.settles_array tokens 125)) (Token.list?_map_toJson tokens)

theorem heldIn_query (tokens : List Token) : HeldIn tokens (ofTokens tokens).toJson.compact := by
  have hsettles : Json.Settles (126 + 1) (ofTokens tokens).toJson :=
    Json.settles_object (by simp [ofTokens]) (by simp [ofTokens, Token.settles_array tokens 124])
  exact .query (Json.treeOf?_compact hsettles) (Token.list?_map_toJson tokens)

theorem heldIn_compiled (tokens : List Token) {compiled : CompiledQuery}
    (h : (CompiledQuery.ofJson? compiled.toJson).isSome) :
    HeldIn tokens (toJson ⟨tokens, some compiled⟩).compact := by
  obtain ⟨read, hread⟩ := Option.isSome_iff_exists.mp h
  have hsettles : Json.Settles (126 + 1) (toJson ⟨tokens, some compiled⟩) :=
    Json.settles_object (by simp)
      (by simp [Token.settles_array tokens 124, CompiledQuery.settles_toJson h 123])
  exact .compiled (Json.treeOf?_compact hsettles) (.refl _) (Token.list?_map_toJson tokens) hread

end Query

/-! ## Runs -/

/-- A form that a query holds has no say in what the query is compiled to. -/
theorem Service.compile_stored (s : Service) (caller : Caller) (tokens : List Token)
    (stored other : Option CompiledQuery) :
    (s.compile caller ⟨tokens, stored⟩).1 = (s.compile caller ⟨tokens, other⟩).1 := by
  rw [compile, compile]
  cases s.catalog <;> rfl

namespace CommandLine

namespace Arguments

/-- The request to compile the tokens in a file, with the options of another request. -/
def compiling (a : Arguments) (file : String) : Invocation :=
  .request { a with command := .compile file }

variable {a : Arguments} {fileText : String → Except ReadFailure String} {file text : String}
  {tokens : List Token}

/-- What comes of compiling tokens over a catalog, if they are not in any file. -/
def compilation (a : Arguments) (loaded : Except CatalogError Catalog) (tokens : List Token) :
    Except CommandError Report := do
  let s ← (Service.new loaded).mapError .service
  let compiled ← (s.compile a.caller (.ofTokens tokens)).1.mapError .service
  .ok (.compiled compiled)

theorem run_compile (htext : fileText file = .ok text) (h : Query.HeldIn tokens text) :
    run { a with command := .compile file } fileText =
      a.compilation ((CatalogSource.file a.catalog .builtin).load fileText) tokens := by
  obtain ⟨stored, hparse⟩ := h.exists_parseFile?
  have hquery : readQuery fileText file = .ok ⟨tokens, stored⟩ := by
    rw [readQuery, htext]
    simp only [hparse]
  rw [run, compilation]
  cases Service.new ((CatalogSource.file a.catalog .builtin).load fileText) with
  | error e => rfl
  | ok s =>
      simp only [except_mapError_ok, except_ok_bind, runCommand, hquery, Query.ofTokens]
      rw [s.compile_stored _ tokens none stored]
      rfl

end Arguments

/-- A request to compile prints the same and ends the same for every file that holds the same
tokens, over the same catalog file and with the same options. The tokens may be written as a bare
list, as a query, or as a query with any compiled form that can be read. -/
theorem compile_prints_same (a : Arguments) (tokens : List Token) :
    (∀ (fileText otherText : String → Except ReadFailure String) (file other text text' : String),
      fileText a.catalog = otherText a.catalog →
      fileText file = .ok text → Query.HeldIn tokens text →
      otherText other = .ok text' → Query.HeldIn tokens text' →
      (a.compiling file).run fileText = (a.compiling other).run otherText) ∧
    Query.HeldIn tokens (Json.array (tokens.map Token.toJson)).compact ∧
    Query.HeldIn tokens (Query.toJson ⟨tokens, none⟩).compact ∧
    ∀ compiled : CompiledQuery, (CompiledQuery.ofJson? compiled.toJson).isSome →
      Query.HeldIn tokens (Query.toJson ⟨tokens, some compiled⟩).compact := by
  refine ⟨?_, Query.heldIn_list tokens, Query.heldIn_query tokens,
    fun _ => Query.heldIn_compiled tokens⟩
  intro fileText otherText file other text text' hcatalog hfile htext hother htext'
  have hload : (CatalogSource.file a.catalog .builtin).load fileText =
      (CatalogSource.file a.catalog .builtin).load otherText := by
    rw [CatalogSource.load, CatalogSource.load, hcatalog]
  rw [Arguments.compiling, Arguments.compiling, Invocation.run, Invocation.run,
    Arguments.run_compile hfile htext, Arguments.run_compile hother htext', hload]

namespace Inventory

/-- A catalog of items, which everybody may see. -/
def document : CatalogDocument := ⟨"Find all", [⟨"Item", "Item", none, none, []⟩]⟩

/-- A request without options beyond the catalog. -/
def request : Arguments := ⟨"catalog.json", "", [], .table, .check⟩

/-- All items. -/
def tokens : List Token := [⟨.find, "Find all"⟩, ⟨.entity, "Item"⟩]

/-- A form that these tokens are not compiled to. -/
def stale : CompiledQuery := ⟨"SELECT x FROM Secret x WHERE x.id = ?", [.int64 7]⟩

def fileText : String → Except ReadFailure String
  | "catalog.json" => .ok document.toJson.compact
  | "bare.json" => .ok (Json.array (tokens.map Token.toJson)).compact
  | "stale.json" => .ok (Query.toJson ⟨tokens, some stale⟩).compact
  | _ => .error .missing

end Inventory

open Inventory in
/-- A stale form in a file is not printed. -/
theorem stale_form_not_printed :
    ((request.compiling "stale.json").run fileText).stdout =
      "SELECT DISTINCT x FROM Item x\n" := by
  obtain ⟨hsame, hlist, -, hstored⟩ := compile_prints_same request tokens
  have hread : (CompiledQuery.ofJson? stale.toJson).isSome := by decide +kernel
  rw [hsame fileText fileText "stale.json" "bare.json" _ _ rfl rfl (hstored stale hread) rfl hlist]
  decide +kernel

end CommandLine

end GuardedQuery
