import GuardedQuery.Proofs.Service.Authorization
import GuardedQuery.Proofs.Value.Json

/-! # Compiled queries read back from JSON

Tokens are read back as they are, and so is the text of a compiled query. The parameters are read
back if all of them are finite; one infinity or NaN among them makes the whole query unreadable. -/

namespace GuardedQuery

theorem TokenKind.ofName?_name (k : TokenKind) : ofName? k.name = some k := by
  cases k <;> rfl

theorem Token.ofJson?_toJson (t : Token) : ofJson? t.toJson = some t := by
  rw [ofJson?, toJson, Json.record?_object (by simp)]
  simp [List.lookup_cons, Json.tag?, Json.variant?, Json.string?, TokenKind.ofName?_name]

theorem Token.list?_map_toJson (tokens : List Token) :
    Json.list? ofJson? (.array (tokens.map toJson)) = some tokens :=
  Json.list?_map_eq_some.mpr fun t _ => t.ofJson?_toJson

/-- A compiled query is read if its parameters are. -/
theorem CompiledQuery.ofJson?_toJson {q : CompiledQuery} (hexact : ∀ v ∈ q.parameters, v.Exact) :
    ofJson? q.toJson = if q.parameters.all Value.isFinite then some q else none := by
  rw [ofJson?, toJson, Json.record?_object (by simp)]
  have hparameters := Value.list?_map_toJson hexact
  by_cases hfinite : q.parameters.all Value.isFinite = true
  · rw [if_pos hfinite] at hparameters
    simp [List.lookup_cons, Json.string?, hparameters, hfinite]
  · rw [if_neg hfinite] at hparameters
    simp [List.lookup_cons, Json.string?, hparameters, hfinite]

theorem Query.ofJson?_toJson (tokens : List Token) (compiled : CompiledQuery) :
    ofJson? (toJson ⟨tokens, some compiled⟩) =
      (CompiledQuery.ofJson? compiled.toJson).map (⟨tokens, some ·⟩) := by
  have hread : ofJson? (toJson ⟨tokens, some compiled⟩) =
      ((CompiledQuery.ofJson? compiled.toJson).map some).bind (some ⟨tokens, ·⟩) := by
    rw [ofJson?, toJson, Json.record?_object (by simp)]
    simp [List.lookup_cons, Token.list?_map_toJson tokens, CompiledQuery.toJson]
  rw [hread]
  cases CompiledQuery.ofJson? compiled.toJson with
  | none => rfl
  | some read => rfl

/-- The text of a query with a compiled form is read as that query, or not at all. -/
theorem Query.parse?_compact (tokens : List Token) {compiled : CompiledQuery}
    (hexact : ∀ v ∈ compiled.parameters, v.Exact) :
    parse? (toJson ⟨tokens, some compiled⟩).compact =
      if compiled.parameters.all Value.isFinite then some ⟨tokens, some compiled⟩ else none := by
  rw [parse?, Json.parse?_compact, Option.bind_some, ofJson?_toJson,
    CompiledQuery.ofJson?_toJson hexact]
  split
  · rfl
  · rfl

/-- A query that has been compiled is read back from its text, with the same tokens, compiled text
and parameters, if all parameters are finite. If one is not, the text cannot be read. -/
theorem Service.read_compiled {s : Service} {caller : Caller} {q : Query} {compiled : CompiledQuery}
    (h : (s.compile caller q).1 = .ok compiled) (hexact : ∀ v ∈ compiled.parameters, v.Exact) :
    Query.parse? (s.compile caller q).2.toJson.compact =
      if compiled.parameters.all Value.isFinite then some ⟨q.tokens, some compiled⟩ else none := by
  obtain ⟨hstored, -⟩ := compile_eq_ok h
  rw [hstored]
  exact Query.parse?_compact q.tokens hexact

/-! ### Prices -/

namespace Prices

def catalog : Catalog :=
  (Catalog.new "find").withEntities
    [(Entity.new "Product" "Product").withAttributes [.new "price" "Price" .float64]]

def service : Service := ⟨⟨.ready catalog, 1⟩, .declared⟩

/-- The products cheaper than a price. -/
def below (price : String) : Query :=
  .ofTokens [⟨.find, "find"⟩, ⟨.entity, "Product"⟩, ⟨.having, "having"⟩, ⟨.attr, "Price"⟩,
    ⟨.operator, "lower than"⟩, ⟨.value, price⟩]

/-- The compiled form for a price. -/
def compiled (price : Binary .double) : CompiledQuery :=
  ⟨"SELECT DISTINCT x FROM Product x WHERE x.price < ?", [.float64 price]⟩

def half : Binary .double := .finite false 4503599627370496 (-53)

theorem compile_half : (service.compile .anonymous (below "0.5")).1 = .ok (compiled half) := by
  rw [Service.compile_of_catalog_eq_ok rfl]
  exact Service.compileTokens_eq_ok.mpr ⟨by decide +kernel, by decide +kernel⟩

theorem compile_infinite :
    (service.compile .anonymous (below "1e999")).1 = .ok (compiled (.infinity false)) := by
  rw [Service.compile_of_catalog_eq_ok rfl]
  exact Service.compileTokens_eq_ok.mpr ⟨by decide +kernel, by decide +kernel⟩

theorem exact_half : (Value.float64 half).Exact := by
  have hdecimal : JsonNumber.ofDecimal .double false
      (Shortest.decimal .double .even 4503599627370496 (-53)) = ⟨false, 0, [5], none⟩ := by
    decide +kernel
  intro n hn
  rw [half, Json.ofBinary, if_neg (by decide), hdecimal] at hn
  cases hn
  decide +kernel

end Prices

theorem read_compiled_half :
    (Prices.service.compile .anonymous (Prices.below "0.5")).1 = .ok (Prices.compiled Prices.half) ∧
      (∀ v ∈ (Prices.compiled Prices.half).parameters, v.Exact) ∧
      Query.parse? (Prices.service.compile .anonymous (Prices.below "0.5")).2.toJson.compact =
        some ⟨(Prices.below "0.5").tokens, some (Prices.compiled Prices.half)⟩ := by
  have hexact : ∀ v ∈ (Prices.compiled Prices.half).parameters, v.Exact := by
    intro v hv
    rw [List.mem_singleton.mp hv]
    exact Prices.exact_half
  exact ⟨Prices.compile_half, hexact, Service.read_compiled Prices.compile_half hexact⟩

/-- A price that no float can hold is compiled to an infinity, and the form cannot be read back. -/
theorem compile_infinite_unreadable :
    (Prices.service.compile .anonymous (Prices.below "1e999")).1 =
        .ok (Prices.compiled (.infinity false)) ∧
      (∀ v ∈ (Prices.compiled (.infinity false)).parameters, v.Exact) ∧
      Query.parse? (Prices.service.compile .anonymous (Prices.below "1e999")).2.toJson.compact =
        none := by
  have hexact : ∀ v ∈ (Prices.compiled (.infinity false)).parameters, v.Exact := by
    intro v hv
    rw [List.mem_singleton.mp hv]
    nofun
  obtain ⟨hstored, -⟩ := Service.compile_eq_ok Prices.compile_infinite
  refine ⟨Prices.compile_infinite, hexact, ?_⟩
  rw [hstored]
  exact Query.parse?_compact _ hexact

end GuardedQuery
