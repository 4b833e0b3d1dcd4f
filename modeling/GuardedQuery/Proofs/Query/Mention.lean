import Mathlib.Data.List.Nodup
import GuardedQuery.Proofs.Text.Splitting
import GuardedQuery.Query.Draft

/-! # Aliases in a text

What the words of a query text say about aliases: a join declares one, and a dotted name uses one.
Texts whose joins are numbered one after another, and which use no alias before its join, can be put
one behind the other. -/

namespace GuardedQuery

/-- What a query text says about an alias. -/
inductive Mention
  /-- A record is joined from the source under the target. -/
  | join (source target : String)
  /-- A field of the source is used. -/
  | field (source : String)
  deriving DecidableEq, Repr

namespace Mention

/-- The alias in front of a dot. -/
def source? (word : String) : Option String :=
  (Text.splitOnce '.' word).map Prod.fst

/-- The mentions in words from left to right. -/
def ofWords : List String → List Mention
  | "LEFT" :: "JOIN" :: path :: target :: words =>
    .join ((source? path).getD path) target :: ofWords words
  | word :: words => ((source? word).map field).toList ++ ofWords words
  | [] => []

/-- The mentions in a text, whose words stand between spaces. -/
def ofText (text : String) : List Mention :=
  ofWords (Text.split ' ' text)

/-- The alias that a join declares. -/
def target? : Mention → Option String
  | .join _ target => some target
  | .field _ => none

/-! ## Words -/

theorem source?_of_notMem {word : String} (h : '.' ∉ word.toList) : source? word = none := by
  rw [source?, Text.splitOnce, Text.cutOnce_of_notMem h]
  rfl

theorem source?_dotted {source : List Char} (h : '.' ∉ source) (name : List Char) :
    source? (String.ofList (source ++ '.' :: name)) = some (String.ofList source) := by
  rw [source?, Text.splitOnce, String.toList_ofList, Text.cutOnce_append_cons h]
  rfl

theorem ofWords_join {source : List Char} (h : '.' ∉ source) (hop : List Char) (target : String)
    (words : List String) :
    ofWords ("LEFT" :: "JOIN" :: String.ofList (source ++ '.' :: hop) :: target :: words) =
      .join (String.ofList source) target :: ofWords words := by
  rw [ofWords, source?_dotted h]
  rfl

/-- A word that does not begin a join. -/
theorem ofWords_cons {word : String} {words : List String}
    (h : word = "LEFT" → words.head? ≠ some "JOIN") :
    ofWords (word :: words) = ((source? word).map field).toList ++ ofWords words := by
  rw [ofWords]
  rintro path target rest rfl rfl
  exact h rfl rfl

/-- Words that stand in a text, with a space in front of each. -/
def spaced (words : List String) : List Char :=
  words.flatMap fun word => ' ' :: word.toList

@[simp] theorem spaced_nil : spaced [] = [] := rfl

@[simp] theorem spaced_cons (word : String) (words : List String) :
    spaced (word :: words) = ' ' :: word.toList ++ spaced words := rfl

/-- One word without a dot that begins no join. -/
def Quiet (word : List Char) : Prop :=
  ' ' ∉ word ∧ '.' ∉ word ∧ word ≠ ['L', 'E', 'F', 'T']

instance (word : List Char) : Decidable (Quiet word) :=
  inferInstanceAs (Decidable (_ ∧ _ ∧ _))

/-- A text that adds mentions behind any other text. -/
def Adds (text : List Char) (ms : List Mention) : Prop :=
  ∃ words, (∀ word ∈ words, ' ' ∉ word.toList) ∧ text = spaced words ∧
    ∀ rest, ofWords (words ++ rest) = ms ++ ofWords rest

namespace Adds

variable {text text' : List Char} {ms ms' : List Mention}

theorem nil : Adds [] [] :=
  ⟨[], by simp, rfl, fun _ => rfl⟩

theorem append (h : Adds text ms) (h' : Adds text' ms') : Adds (text ++ text') (ms ++ ms') := by
  obtain ⟨words, hwords, rfl, hms⟩ := h
  obtain ⟨words', hwords', rfl, hms'⟩ := h'
  refine ⟨words ++ words', ?_, List.flatMap_append.symm, ?_⟩
  · intro word hword
    exact (List.mem_append.mp hword).elim (hwords word) (hwords' word)
  · intro rest
    rw [List.append_assoc, hms, hms', List.append_assoc]

/-- A quiet word mentions nothing. -/
theorem quiet {word : List Char} (h : Quiet word) : Adds (' ' :: word) [] := by
  obtain ⟨hspace, hdot, hleft⟩ := h
  refine ⟨[String.ofList word], ?_, ?_, ?_⟩
  · intro word' hword
    rwa [List.mem_singleton.mp hword, String.toList_ofList]
  · simp
  · intro rest
    have hword : String.ofList word ≠ "LEFT" := by
      intro hword
      exact hleft (String.ofList_injective hword)
    rw [List.singleton_append, ofWords_cons (fun h => absurd h hword),
      source?_of_notMem (by rwa [String.toList_ofList])]
    rfl

variable {source name target : List Char}

theorem field (hdot : '.' ∉ source) (hsource : ' ' ∉ source) (hname : ' ' ∉ name) :
    Adds (Draft.fieldOf source name) [.field (String.ofList source)] := by
  refine ⟨[String.ofList (source ++ '.' :: name)], ?_, ?_, ?_⟩
  · intro word hword
    rw [List.mem_singleton.mp hword, String.toList_ofList]
    simp [hsource, hname]
  · simp [Draft.fieldOf, spaced]
  · intro rest
    have hleft : String.ofList (source ++ '.' :: name) ≠ "LEFT" := by
      intro hword
      have hmem : '.' ∈ (String.ofList (source ++ '.' :: name)).toList := by simp
      rw [hword] at hmem
      revert hmem
      decide
    rw [List.singleton_append, ofWords_cons (fun hword => absurd hword hleft), source?_dotted hdot]
    rfl

theorem join (hdot : '.' ∉ source) (hsource : ' ' ∉ source) (hname : ' ' ∉ name)
    (htarget : ' ' ∉ target) :
    Adds (Draft.joinClause source name target)
      [.join (String.ofList source) (String.ofList target)] := by
  refine ⟨["LEFT", "JOIN", String.ofList (source ++ '.' :: name), String.ofList target],
    ?_, ?_, ?_⟩
  · simp [hsource, hname, htarget]
  · have hjoin : " LEFT JOIN".toList = spaced ["LEFT", "JOIN"] := by decide
    unfold Draft.joinClause
    rw [hjoin]
    simp only [Draft.fieldOf, spaced_cons, spaced_nil, String.toList_ofList, List.append_assoc,
      List.cons_append, List.append_nil]
  · intro rest
    exact ofWords_join hdot name _ rest

/-- The clause of an entity mentions nothing, even if its type were called `LEFT`. -/
theorem entity {e : Entity} (hdot : '.' ∉ e.typeId.toList) (hspace : ' ' ∉ e.typeId.toList) :
    Adds (Draft.entityClause e) [] := by
  refine ⟨["x", "FROM", e.typeId, "x"], ?_, ?_, ?_⟩
  · simp [hspace]
  · have hroot : "x".toList = Draft.rootAlias := by decide
    have hfrom : " FROM ".toList = ' ' :: "FROM".toList ++ [' '] := by decide
    simp only [Draft.entityClause, hfrom, spaced_cons, spaced_nil, hroot, List.append_assoc,
      List.cons_append, List.nil_append, List.append_nil]
  · intro rest
    have hroot : source? "x" = none := source?_of_notMem (by decide)
    have hfrom : source? "FROM" = none := source?_of_notMem (by decide)
    simp only [List.cons_append, List.nil_append]
    rw [ofWords_cons (by simp), ofWords_cons (by simp), ofWords_cons (by simp),
      ofWords_cons (by simp), hroot, hfrom, source?_of_notMem hdot]
    rfl

end Adds

/-! ## Whole texts -/

theorem ofWords_append_of_still {words : List String}
    (h : ∀ word ∈ words, '.' ∉ word.toList ∧ 'F' ∉ word.toList) (rest : List String) :
    ofWords (words ++ rest) = ofWords rest := by
  induction words with
  | nil => rfl
  | cons word words ih =>
      obtain ⟨⟨hdot, hletter⟩, hwords⟩ := List.forall_mem_cons.mp h
      have hleft : word ≠ "LEFT" := by
        rintro rfl
        revert hletter
        decide
      rw [List.cons_append, ofWords_cons (fun hword => absurd hword hleft), source?_of_notMem hdot,
        ih hwords]
      rfl

/-- What a text adds is all that is mentioned if no dot and no `LEFT` is in front of it. -/
theorem ofText_append {front text : List Char} {ms : List Mention} (hdot : '.' ∉ front)
    (hletter : 'F' ∉ front) (h : Adds text ms) : ofText (String.ofList (front ++ text)) = ms := by
  obtain ⟨words, hspace, rfl, hms⟩ := h
  have hspaced : spaced words = (words.map String.toList).flatMap (' ' :: ·) := by
    rw [List.flatMap_map]
    rfl
  have hcut : Text.split ' ' (String.ofList (front ++ spaced words)) =
      (Text.cut ' ' front).map String.ofList ++ words := by
    rw [Text.split, String.toList_ofList, hspaced,
      Text.cut_append_flatMap front (List.forall_mem_map.mpr hspace), List.map_append, List.map_map]
    simp [Function.comp_def]
  have hall := hms []
  rw [List.append_nil, ofWords, List.append_nil] at hall
  rw [ofText, hcut, ofWords_append_of_still, hall]
  rw [List.forall_mem_map]
  intro piece hpiece
  rw [String.toList_ofList]
  exact ⟨fun hmem => hdot (Text.mem_of_mem_cut hpiece hmem),
    fun hmem => hletter (Text.mem_of_mem_cut hpiece hmem)⟩

/-! ## Numbers -/

/-- The alias of the records asked for. -/
def root : String :=
  String.ofList Draft.rootAlias

/-- The alias with a number. -/
def numbered (number : Nat) : String :=
  String.ofList (Draft.joinAlias number)

theorem numbered_injective : Function.Injective numbered := by
  intro m n h
  have hchars : Digit.chars m = Digit.chars n :=
    List.append_cancel_left (String.ofList_injective h)
  have hchar : Function.Injective Digit.char := by
    intro d d' hd
    have hread := congrArg Digit.ofChar? hd
    rwa [Digit.ofChar?_char, Digit.ofChar?_char, Option.some.injEq] at hread
  have hdigits := congrArg Digit.toNat (List.map_injective_iff.mpr hchar hchars)
  rwa [Digit.toNat_ofNat, Digit.toNat_ofNat] at hdigits

/-- With the aliases before `n` declared, mentions declare the aliases from `n` to before `m`. Each
join starts from the root or from the join before it, and no alias is used before its join. -/
inductive Numbered : Nat → List Mention → Nat → Prop
  | nil (n) : Numbered n [] n
  | join {n m source ms}
      (hsource : source = root ∨ ∃ k, 1 ≤ k ∧ k + 1 = n ∧ source = numbered k) :
      Numbered (n + 1) ms m → Numbered n (.join source (numbered n) :: ms) m
  | field {n m source ms}
      (hsource : source = root ∨ ∃ k, 1 ≤ k ∧ k < n ∧ source = numbered k) :
      Numbered n ms m → Numbered n (.field source :: ms) m

namespace Numbered

variable {n m k : Nat} {ms ms' : List Mention}

theorem append (h : Numbered n ms m) (h' : Numbered m ms' k) : Numbered n (ms ++ ms') k := by
  induction h with
  | nil => exact h'
  | join hsource _ ih => exact .join hsource (ih h')
  | field hsource _ ih => exact .field hsource (ih h')

theorem exists_of_append (h : Numbered n (ms ++ ms') k) :
    ∃ m, Numbered n ms m ∧ Numbered m ms' k := by
  induction ms generalizing n with
  | nil => exact ⟨n, .nil n, h⟩
  | cons _ ms ih =>
      cases h with
      | join hsource h =>
          obtain ⟨m, hms, hms'⟩ := ih h
          exact ⟨m, .join hsource hms, hms'⟩
      | field hsource h =>
          obtain ⟨m, hms, hms'⟩ := ih h
          exact ⟨m, .field hsource hms, hms'⟩

/-- The joins declare one alias after another. -/
theorem exists_targets_eq (h : Numbered n ms m) :
    ∃ count, m = n + count ∧ ms.filterMap target? = (List.range' n count).map numbered := by
  induction h with
  | nil n => exact ⟨0, rfl, rfl⟩
  | @join n _ _ _ _ _ ih =>
      obtain ⟨count, rfl, htargets⟩ := ih
      refine ⟨count + 1, by omega, ?_⟩
      rw [List.range'_succ, List.map_cons, ← htargets]
      rfl
  | field _ _ ih => exact ih

theorem targets_eq {count : Nat} (h : Numbered n ms (n + count)) :
    ms.filterMap target? = (List.range' n count).map numbered := by
  obtain ⟨count', hcount, htargets⟩ := h.exists_targets_eq
  rw [htargets, Nat.add_left_cancel hcount]

end Numbered

end Mention

end GuardedQuery
