import Mathlib.Data.List.Forall2
import PlatformSignatures.Proofs.MarkedTypes
import PlatformSignatures.Proofs.NormalForms

/-!
# Reading types back

A written type is one node, as long as its names are proper ones, and the normal form of the type
can be read off that node.  So two types are written alike exactly if they have the same normal
form.
-/

namespace PlatformSignatures

variable {ν : Type}

/-! ### Nodes -/

namespace Node

/-- The text of a text node. -/
def token : Node → String
  | text t _ _ => t
  | _ => ""

@[simp]
theorem token_text (t : String) (styles : List TextStyle) (platforms : PlatformSet) :
  (text t styles platforms).token = t
  := rfl

/-- The target of a link. -/
def target : Node → SymbolId
  | link _ target _ => target
  | _ => SymbolId.anonymous

end Node

/-- The items of a list that stand at even places, counted from zero. -/
def everyOther {α : Type} : List α → List α
  | [] => []
  | [a] => [a]
  | a :: _ :: as => a :: everyOther as

theorem everyOther_map_intersperse {α β : Type} (f : α → β) (separator closing : α) (a : α)
    (as rest : List α) :
  everyOther (((a :: as).intersperse separator ++ closing :: rest).map f)
    = (a :: as).map f ++ everyOther (rest.map f)
  := by
  induction as generalizing a with
  | nil => rfl
  | cons b bs ih =>
      rw [List.intersperse_cons_cons, List.cons_append, List.cons_append, List.map_cons,
        List.map_cons, everyOther, ih]
      rfl

namespace Emission

/-- Each of some emissions writes one node. -/
def Writes (scope : Scope Node) (es : List (Emission Node)) (ns : List Node) : Prop :=
  List.Forall₂ (fun e n => e scope = [n]) es ns

variable {owner : SymbolId} {platforms : PlatformSet} {es : List (Emission Node)}

theorem separated_eq_intersperse (separator : String) (h : separator ≠ "") {ns : List Node}
    (hes : Writes ⟨Node.factory, owner, platforms⟩ es ns) :
  separated separator es ⟨Node.factory, owner, platforms⟩
    = ns.intersperse (.text separator [] platforms)
  := by
  induction hes with
  | nil => rfl
  | @cons e n es ns hn hes ih =>
      cases hes with
      | nil => apply hn
      | @cons e' n' es ns hn' hes =>
          have htext : text separator ⟨Node.factory, owner, platforms⟩
              = [.text separator [] platforms] := if_neg h
          change e _ ++ text separator _ ++ separated separator (e' :: es) _ = _
          rw [hn, htext, ih, List.intersperse_cons_cons]
          rfl

theorem enclosed_eq_intersperse (opening closing separator : String) (hopening : opening ≠ "")
    (hclosing : closing ≠ "") (hseparator : separator ≠ "") {n : Node} {ns : List Node}
    (hes : Writes ⟨Node.factory, owner, platforms⟩ es (n :: ns)) :
  enclosed opening closing separator es ⟨Node.factory, owner, platforms⟩
    = .text opening [] platforms :: ((n :: ns).intersperse (.text separator [] platforms) ++
        [.text closing [] platforms])
  := by
  have hopen : text opening ⟨Node.factory, owner, platforms⟩
      = [.text opening [] platforms] := if_neg hopening
  have hclose : text closing ⟨Node.factory, owner, platforms⟩
      = [.text closing [] platforms] := if_neg hclosing
  have hitems := separated_eq_intersperse separator hseparator hes
  cases hes with
  | cons =>
      change text opening _ ++ separated separator _ _ ++ text closing _ = _
      rw [hopen, hitems, hclose]
      rfl

end Emission

/-! ### Readers -/

namespace Kotlin

/-- The types in an arrow after its opening parenthesis, given its nodes and their types. -/
def readArrow (children : List Node) (types : List TypeExpr) : List TypeExpr :=
  match children with
  | c :: _ => if c.token = ") -> " then types.tail else everyOther types
  | [] => []

/-- The type of a group, given the nodes in it and their types. -/
def readGroup : List Node → List TypeExpr → TypeExpr
  | a :: b :: cs, s :: t :: ts =>
    if b.token = "<" then .named a.target (everyOther ts) .notFunction
    else if b.token = "." then
      .named SymbolId.anonymous (s :: readArrow cs.tail ts.tail) .extension
    else if a.token = "(" then .named SymbolId.anonymous (readArrow (b :: cs) (t :: ts)) .function
    else if b.token = "?" then .nullable s
    else if a.token = "out " then .variance .covariant t
    else .variance .contravariant t
  | a :: _, _ => .named a.target [] .notFunction
  | [], _ => .star

mutual

/-- The type that a node stands for. -/
def read : Node → TypeExpr
  | .text t _ _ => if t = "*" then .star else if t = "dynamic" then .dynamic else .typeParameter t
  | .link _ target _ => if target = SymbolId.kotlinAny then .root else .void
  | .group _ _ _ _ cs => readGroup cs (readList cs)

/-- The types that the nodes of a list stand for. -/
def readList : List Node → List TypeExpr
  | [] => []
  | c :: cs => read c :: readList cs

end

theorem readList_eq_map (ns : List Node) :
  readList ns = ns.map read
  := by
  induction ns with
  | nil => rfl
  | cons n ns ih => rw [readList, ih, List.map_cons]

end Kotlin

namespace Java

/-- The type of a group, given the nodes in it and their types. -/
def readGroup : List Node → List TypeExpr → TypeExpr
  | a :: b :: _, _ :: t :: ts =>
    if b.token = "<" then .named a.target (everyOther ts) .notFunction
    else if a.token = "? extends " then .variance .covariant t
    else .variance .contravariant t
  | a :: _, _ => .named a.target [] .notFunction
  | [], _ => .star

mutual

/-- The type that a node stands for. -/
def read : Node → TypeExpr
  | .text t _ _ => if t = "?" then .star else if t = "void" then .void else .typeParameter t
  | .link _ _ _ => .root
  | .group _ _ _ _ cs => readGroup cs (readList cs)

/-- The types that the nodes of a list stand for. -/
def readList : List Node → List TypeExpr
  | [] => []
  | c :: cs => read c :: readList cs

end

theorem readList_eq_map (ns : List Node) :
  readList ns = ns.map read
  := by
  induction ns with
  | nil => rfl
  | cons n ns ih => rw [readList, ih, List.map_cons]

end Java

/-! ### Types that are shown by a node -/

namespace Dialect

/-- The type that a node stands for in a language. -/
def read : Dialect → Node → TypeExpr
  | kotlin => Kotlin.read
  | java => Java.read

/-- A type is shown by a node if the node is what is written for it, its normal form can be read
off the node, and the node is no punctuation. -/
structure Shows (d : Dialect) (owner : SymbolId) (platforms : PlatformSet) (t : TypeExpr)
    (n : Node) : Prop where
  written : d.typeExpr t ⟨Node.factory, owner, platforms⟩ = [n]
  read : d.read n = d.normalForm t
  token : n.token ∉ d.punctuation

variable {d : Dialect} {owner : SymbolId} {platforms : PlatformSet}

theorem Shows.intro {t : TypeExpr} {n : Node} (token : String)
    (hwritten : d.typeExpr t ⟨Node.factory, owner, platforms⟩ = [n])
    (hread : d.read n = d.normalForm t) (hn : n.token = token)
    (htoken : token ∉ d.punctuation) :
  d.Shows owner platforms t n
  := ⟨hwritten, hread, hn ▸ htoken⟩

theorem Shows.token_ne {t : TypeExpr} {n : Node} (h : d.Shows owner platforms t n) (token : String)
    (htoken : token ∈ d.punctuation) :
  n.token ≠ token
  := by
  rintro rfl
  apply h.token htoken

/-- The nodes that show the types of a list. -/
theorem exists_nodes {ts : List TypeExpr} (h : ∀ t ∈ ts, ∃ n, d.Shows owner platforms t n) :
  ∃ ns, Emission.Writes ⟨Node.factory, owner, platforms⟩ (ts.map d.typeExpr) ns ∧
    ns.map d.read = ts.map d.normalForm ∧ ∀ n ∈ ns, n.token ∉ d.punctuation
  := by
  induction ts with
  | nil => exact ⟨[], .nil, rfl, List.forall_mem_nil _⟩
  | cons t ts ih =>
      rw [List.forall_mem_cons] at h
      obtain ⟨⟨n, hn⟩, hrest⟩ := h
      obtain ⟨ns, hwritten, hread, htokens⟩ := ih hrest
      use n :: ns
      constructor
      · exact .cons hn.written hwritten
      constructor
      · rw [List.map_cons, List.map_cons, hn.read, hread]
      · rw [List.forall_mem_cons]
        exact ⟨hn.token, htokens⟩

/-- The arguments of a named type are read off the nodes in brackets. -/
theorem read_brackets (d : Dialect) (id : SymbolId) (platforms : PlatformSet) (separator : Node)
    (n : Node) (ns : List Node) :
  d.read (.group none none [] platforms (.link id.displayName id platforms ::
      .text "<" [] platforms :: ((n :: ns).intersperse separator ++ [.text ">" [] platforms])))
    = .named id ((n :: ns).map d.read) .notFunction
  := by
  have hitems := everyOther_map_intersperse d.read separator (.text ">" [] platforms) n ns []
  rw [List.map_nil, everyOther, List.append_nil] at hitems
  rw [← hitems]
  cases d with
  | kotlin =>
      change TypeExpr.named id (everyOther (Kotlin.readList _)) .notFunction = _
      rw [Kotlin.readList_eq_map]
      rfl
  | java =>
      change TypeExpr.named id (everyOther (Java.readList _)) .notFunction = _
      rw [Java.readList_eq_map]
      rfl

/-- A named type is shown by a link with the arguments in brackets. -/
theorem exists_namedType (id : SymbolId) {ts : List TypeExpr}
    (h : ∀ t ∈ ts, ∃ n, d.Shows owner platforms t n) :
  ∃ n, Kotlin.namedType id (ts.map d.typeExpr) ⟨Node.factory, owner, platforms⟩ = [n] ∧
    d.read n = .named id (ts.map d.normalForm) .notFunction ∧ n.token = ""
  := by
  obtain ⟨ns, hwritten, hread, -⟩ := exists_nodes h
  rw [← hread]
  cases ns with
  | nil =>
      generalize ts.map d.typeExpr = es at hwritten
      cases hwritten
      use .group none none [] platforms [.link id.displayName id platforms]
      cases d with
      | kotlin => exact ⟨rfl, rfl, rfl⟩
      | java => exact ⟨rfl, rfl, rfl⟩
  | cons n ns =>
      have hbrackets := Emission.enclosed_eq_intersperse "<" ">" ", " (by decide) (by decide)
        (by decide) hwritten
      use .group none none [] platforms (.link id.displayName id platforms ::
        .text "<" [] platforms :: ((n :: ns).intersperse (.text ", " [] platforms) ++
          [.text ">" [] platforms]))
      constructor
      · change [Node.group _ _ _ _ (_ ++ Emission.enclosed _ _ _ _ _)] = _
        rw [hbrackets]
        rfl
      constructor
      · apply read_brackets
      · rfl

/-- A proper name is written as it is. -/
theorem shows_typeParameter {name : String} (h : d.IsName name) :
  d.Shows owner platforms (.typeParameter name) (.text name [] platforms)
  := by
  obtain ⟨hne, hpunctuation, hwords⟩ := h
  constructor
  · cases d with
    | kotlin => apply if_neg hne
    | java => apply if_neg hne
  · cases d with
    | kotlin =>
        have hstar : name ≠ "*" := fun h => hwords (h ▸ by decide)
        have hdynamic : name ≠ "dynamic" := fun h => hwords (h ▸ by decide)
        apply Eq.trans (if_neg hstar) (if_neg hdynamic)
    | java =>
        have hstar : name ≠ "?" := fun h => hwords (h ▸ by decide)
        have hvoid : name ≠ "void" := fun h => hwords (h ▸ by decide)
        apply Eq.trans (if_neg hstar) (if_neg hvoid)
  · apply hpunctuation

/-- The word for a variance. -/
def varianceWord : Dialect → Variance → String
  | kotlin, .covariant => "out "
  | kotlin, .contravariant => "in "
  | java, .covariant => "? extends "
  | java, .contravariant => "? super "

/-- A variance is read off the word for it. -/
theorem read_variance (v : Variance) {n : Node} (h : n.token ∉ d.punctuation) :
  d.read (.group none none [] platforms [.text (d.varianceWord v) [] platforms, n])
    = .variance v (d.read n)
  := by
  have hne : ∀ token ∈ d.punctuation, n.token ≠ token := by
    rintro token htoken rfl
    exact h htoken
  cases d with
  | kotlin =>
      have hbracket := hne "<" (by decide)
      have hdot := hne "." (by decide)
      have hquestion := hne "?" (by decide)
      change Kotlin.read _ = .variance v (Kotlin.read n)
      rw [Kotlin.read, Kotlin.readList, Kotlin.readList, Kotlin.readList, Kotlin.readGroup]
      cases v <;> simp [varianceWord, hbracket, hdot, hquestion]
  | java =>
      have hbracket := hne "<" (by decide)
      change Java.read _ = .variance v (Java.read n)
      rw [Java.read, Java.readList, Java.readList, Java.readList, Java.readGroup]
      cases v <;> simp [varianceWord, hbracket]

theorem shows_variance (v : Variance) {t : TypeExpr} {n : Node}
    (h : d.Shows owner platforms t n) :
  d.Shows owner platforms (.variance v t)
    (.group none none [] platforms [.text (d.varianceWord v) [] platforms, n])
  := by
  have hwritten : d.typeExpr (.variance v t) ⟨Node.factory, owner, platforms⟩
      = [.group none none [] platforms (.text (d.varianceWord v) [] platforms ::
          d.typeExpr t ⟨Node.factory, owner, platforms⟩)] := by
    cases d <;> cases v <;> rfl
  have hnormal : d.normalForm (.variance v t) = .variance v (d.normalForm t) := by
    cases d <;> rfl
  apply Shows.intro "" _ _ rfl
  · cases d <;> decide
  · rw [hwritten, h.written]
  · rw [read_variance v h.token, hnormal, h.read]

end Dialect

/-! ### Kotlin types -/

namespace Kotlin

/-- The parameters and the result of an arrow are read off the nodes after the parenthesis. -/
theorem readArrow_eq (separator closing : Node) (hclosing : closing.token = ") -> ")
    {ps : List Node} (hps : ∀ n ∈ ps, n.token ∉ Dialect.kotlin.punctuation) (r : Node) :
  readArrow (ps.intersperse separator ++ [closing, r])
      (readList (ps.intersperse separator ++ [closing, r]))
    = (ps ++ [r]).map read
  := by
  rw [readList_eq_map, List.map_append]
  cases ps with
  | nil => exact if_pos hclosing
  | cons n ns =>
      have hn : n.token ≠ ") -> " := fun h => hps n List.mem_cons_self (h ▸ by decide)
      have hitems := everyOther_map_intersperse read separator closing n ns [r]
      rw [List.map_append] at hitems
      have hfirst : ∀ types, readArrow ((n :: ns).intersperse separator ++ [closing, r]) types
          = everyOther types := by
        intro types
        cases ns with
        | nil => apply if_neg hn
        | cons => apply if_neg hn
      rw [hfirst, hitems, List.map_append]
      rfl

/-- A function type is read off an arrow. -/
theorem readGroup_function (opening separator closing : Node) (hopening : opening.token = "(")
    (hclosing : closing.token = ") -> ") {ps : List Node}
    (hps : ∀ n ∈ ps, n.token ∉ Dialect.kotlin.punctuation) (r : Node) :
  readGroup (opening :: (ps.intersperse separator ++ [closing, r]))
      (readList (opening :: (ps.intersperse separator ++ [closing, r])))
    = .named SymbolId.anonymous ((ps ++ [r]).map read) .function
  := by
  rw [← readArrow_eq separator closing hclosing hps r]
  have hfirst : ∃ b cs, ps.intersperse separator ++ [closing, r] = b :: cs ∧
      b.token ≠ "<" ∧ b.token ≠ "." := by
    cases ps with
    | nil =>
        use closing, [r]
        simp [hclosing]
    | cons n ns =>
        have hn := hps n List.mem_cons_self
        have hbracket : n.token ≠ "<" := fun h => hn (h ▸ by decide)
        have hdot : n.token ≠ "." := fun h => hn (h ▸ by decide)
        cases ns with
        | nil => exact ⟨n, _, rfl, hbracket, hdot⟩
        | cons => exact ⟨n, _, rfl, hbracket, hdot⟩
  obtain ⟨b, cs, hlist, hbracket, hdot⟩ := hfirst
  rw [hlist, readList, readList, readGroup, if_neg hbracket, if_neg hdot, if_pos hopening]

/-- A function type with a receiver is read off an arrow. -/
theorem readGroup_extension (receiver dot opening separator closing : Node)
    (hdot : dot.token = ".") (hclosing : closing.token = ") -> ") {ps : List Node}
    (hps : ∀ n ∈ ps, n.token ∉ Dialect.kotlin.punctuation) (r : Node) :
  readGroup (receiver :: dot :: opening :: (ps.intersperse separator ++ [closing, r]))
      (readList (receiver :: dot :: opening :: (ps.intersperse separator ++ [closing, r])))
    = .named SymbolId.anonymous ((receiver :: (ps ++ [r])).map read) .extension
  := by
  have hbracket : dot.token ≠ "<" := by
    rw [hdot]
    decide
  rw [readList, readList, readList, readGroup, if_neg hbracket, if_pos hdot, List.tail_cons,
    List.tail_cons, readArrow_eq separator closing hclosing hps r, List.map_cons]

theorem markedType_function (id : SymbolId) (es : List (Emission ν)) (e : Emission ν) :
  markedType id .function (es ++ [e]) = arrow none es e
  := by
  rw [markedType_eq_marked, marked_function]

theorem markedType_extension (id : SymbolId) (receiver : Emission ν) (es : List (Emission ν))
    (e : Emission ν) :
  markedType id .extension (receiver :: (es ++ [e])) = arrow (some receiver) es e
  := by
  rw [markedType_eq_marked, marked_extension]

variable {owner : SymbolId} {platforms : PlatformSet}

/-- A function type is shown by an arrow. -/
theorem exists_function {ts : List TypeExpr} {t : TypeExpr}
    (h : ∀ x ∈ ts ++ [t], ∃ n, Dialect.kotlin.Shows owner platforms x n) :
  ∃ n, arrow none (ts.map typeExpr) (typeExpr t) ⟨Node.factory, owner, platforms⟩ = [n] ∧
    read n = .named SymbolId.anonymous ((ts ++ [t]).map normalForm) .function ∧ n.token = ""
  := by
  rw [List.forall_mem_append, List.forall_mem_singleton] at h
  obtain ⟨hparameters, r, hresult⟩ := h
  obtain ⟨ps, hwritten, hread, htokens⟩ := Dialect.exists_nodes hparameters
  have hseparated := Emission.separated_eq_intersperse ", " (by decide) hwritten
  have hlast : typeExpr t ⟨Node.factory, owner, platforms⟩ = [r] := hresult.written
  use .group none none [] platforms (.text "(" [] platforms ::
    (ps.intersperse (.text ", " [] platforms) ++ [.text ") -> " [] platforms, r]))
  constructor
  · change [Node.group _ _ _ _ (_ ++ Emission.separated _ (ts.map Dialect.kotlin.typeExpr) _ ++ _ ++
      typeExpr t _)] = _
    rw [hseparated, hlast, List.append_assoc, List.append_assoc]
    rfl
  constructor
  · have hparameters' : ps.map read = ts.map normalForm := hread
    have hresult' : read r = normalForm t := hresult.read
    have htypes : (ps ++ [r]).map read = (ts ++ [t]).map normalForm := by
      simp only [List.map_append, List.map_cons, List.map_nil, hparameters', hresult']
    rw [← htypes]
    apply readGroup_function _ _ _ rfl rfl htokens r
  · rfl

/-- A function type with a receiver is shown by an arrow. -/
theorem exists_extension {q : TypeExpr} {ts : List TypeExpr} {t : TypeExpr}
    (h : ∀ x ∈ q :: (ts ++ [t]), ∃ n, Dialect.kotlin.Shows owner platforms x n) :
  ∃ n, arrow (some (typeExpr q)) (ts.map typeExpr) (typeExpr t) ⟨Node.factory, owner, platforms⟩
      = [n] ∧
    read n = .named SymbolId.anonymous ((q :: (ts ++ [t])).map normalForm) .extension ∧
    n.token = ""
  := by
  rw [List.forall_mem_cons, List.forall_mem_append, List.forall_mem_singleton] at h
  obtain ⟨⟨p, hreceiver⟩, hparameters, r, hresult⟩ := h
  obtain ⟨ps, hwritten, hread, htokens⟩ := Dialect.exists_nodes hparameters
  have hseparated := Emission.separated_eq_intersperse ", " (by decide) hwritten
  have hfirst : typeExpr q ⟨Node.factory, owner, platforms⟩ = [p] := hreceiver.written
  have hlast : typeExpr t ⟨Node.factory, owner, platforms⟩ = [r] := hresult.written
  use .group none none [] platforms (p :: .text "." [] platforms :: .text "(" [] platforms ::
    (ps.intersperse (.text ", " [] platforms) ++ [.text ") -> " [] platforms, r]))
  constructor
  · change [Node.group _ _ _ _ (typeExpr q _ ++ _ ++ _ ++
      Emission.separated _ (ts.map Dialect.kotlin.typeExpr) _ ++ _ ++ typeExpr t _)] = _
    rw [hfirst, hseparated, hlast, List.append_assoc, List.append_assoc]
    rfl
  constructor
  · have hreceiver' : read p = normalForm q := hreceiver.read
    have hparameters' : ps.map read = ts.map normalForm := hread
    have hresult' : read r = normalForm t := hresult.read
    have htypes : (p :: (ps ++ [r])).map read = (q :: (ts ++ [t])).map normalForm := by
      simp only [List.map_append, List.map_cons, List.map_nil, hreceiver', hparameters', hresult']
    rw [← htypes]
    have hgroup := readGroup_extension p (.text "." [] platforms) (.text "(" [] platforms)
      (.text ", " [] platforms) (.text ") -> " [] platforms) rfl rfl htokens r
    apply hgroup
  · rfl

/-- A named type is shown by one node if its arguments are. -/
theorem exists_markedType (id : SymbolId) (marker : FunctionMarker) {ts : List TypeExpr}
    (h : ∀ t ∈ ts, ∃ n, Dialect.kotlin.Shows owner platforms t n) :
  ∃ n, markedType id marker (ts.map typeExpr) ⟨Node.factory, owner, platforms⟩ = [n] ∧
    read n = normalNamed id marker (ts.map normalForm) ∧ n.token = ""
  := by
  cases marker with
  | notFunction => cases ts <;> apply Dialect.exists_namedType id h
  | function =>
      obtain rfl | ⟨ps, r, rfl⟩ := List.eq_nil_or_concat' ts
      · apply Dialect.exists_namedType id h
      · obtain ⟨n, hwritten, hread, htoken⟩ := exists_function h
        use n
        constructor
        · rw [List.map_append]
          apply Eq.trans (congrFun (markedType_function id _ _) _) hwritten
        constructor
        · rw [hread, List.map_append]
          apply (normalNamed_function id _ _).symm
        · apply htoken
  | extension =>
      cases ts with
      | nil => apply Dialect.exists_namedType id h
      | cons q ts =>
          obtain rfl | ⟨ps, r, rfl⟩ := List.eq_nil_or_concat' ts
          · apply Dialect.exists_namedType id h
          · obtain ⟨n, hwritten, hread, htoken⟩ := exists_extension h
            use n
            constructor
            · rw [List.map_cons, List.map_append]
              apply Eq.trans (congrFun (markedType_extension id _ _ _) _) hwritten
            constructor
            · rw [hread, List.map_cons, List.map_append]
              apply (normalNamed_extension id _ _ _).symm
            · apply htoken

theorem shows_nullable {t : TypeExpr} {n : Node} (h : Dialect.kotlin.Shows owner platforms t n) :
  Dialect.kotlin.Shows owner platforms (.nullable t)
    (.group none none [] platforms [n, .text "?" [] platforms])
  := by
  have hparenthesis := h.token_ne "(" (by decide)
  have hwritten : typeExpr t ⟨Node.factory, owner, platforms⟩ = [n] := h.written
  apply Dialect.Shows.intro "" _ _ rfl (by decide)
  · change [Node.group _ _ _ _ (typeExpr t _ ++ _)] = _
    rw [hwritten]
    rfl
  · change read _ = .nullable (normalForm t)
    rw [← show read n = normalForm t from h.read, read, readList, readList, readList, readGroup]
    simp [hparenthesis]

mutual

/-- A type with proper names is shown by a node. -/
theorem exists_shows (t : TypeExpr) (h : t.Names Dialect.kotlin.IsName) :
  ∃ n, Dialect.kotlin.Shows owner platforms t n
  := by
  cases t with
  | named id arguments marker =>
      obtain ⟨n, hwritten, hread, htoken⟩ :=
        exists_markedType id marker (exists_showsAll arguments h)
      rw [← typeExprs_eq_map] at hwritten
      rw [← normalForms_eq_map] at hread
      exact ⟨n, .intro "" hwritten hread htoken (by decide)⟩
  | variance v inner =>
      obtain ⟨n, hn⟩ := exists_shows inner h
      exact ⟨_, Dialect.shows_variance v hn⟩
  | nullable inner =>
      obtain ⟨n, hn⟩ := exists_shows inner h
      exact ⟨_, shows_nullable hn⟩
  | star => exact ⟨_, .intro "*" rfl rfl rfl (by decide)⟩
  | root => exact ⟨_, .intro "" rfl rfl rfl (by decide)⟩
  | primitive name =>
      obtain ⟨n, hwritten, hread, htoken⟩ := Dialect.exists_namedType
        (SymbolId.ofClass "kotlin" (Text.capitalize name)) (List.forall_mem_nil _)
      exact ⟨n, .intro "" hwritten hread htoken (by decide)⟩
  | void => exact ⟨_, .intro "" rfl rfl rfl (by decide)⟩
  | dynamic => exact ⟨_, .intro "dynamic" rfl rfl rfl (by decide)⟩
  | typeParameter name => exact ⟨_, Dialect.shows_typeParameter h⟩

theorem exists_showsAll (ts : List TypeExpr) (h : TypeExpr.NamesOfList Dialect.kotlin.IsName ts) :
  ∀ t ∈ ts, ∃ n, Dialect.kotlin.Shows owner platforms t n
  := by
  cases ts with
  | nil => apply List.forall_mem_nil
  | cons t ts =>
      rw [List.forall_mem_cons]
      exact ⟨exists_shows t h.1, exists_showsAll ts h.2⟩

end

end Kotlin

/-! ### Java types -/

namespace Java

variable {owner : SymbolId} {platforms : PlatformSet}

mutual

/-- A type with proper names is shown by a node. -/
theorem exists_shows (t : TypeExpr) (h : t.Names Dialect.java.IsName) :
  ∃ n, Dialect.java.Shows owner platforms t n
  := by
  cases t with
  | named id arguments marker =>
      obtain ⟨n, hwritten, hread, htoken⟩ :=
        Dialect.exists_namedType id (exists_showsAll arguments h)
      change Kotlin.namedType id (arguments.map typeExpr) _ = _ at hwritten
      rw [← typeExprs_eq_map] at hwritten
      change read n = .named id (arguments.map normalForm) .notFunction at hread
      rw [← normalForms_eq_map] at hread
      exact ⟨n, .intro "" hwritten hread htoken (by decide)⟩
  | variance v inner =>
      obtain ⟨n, hn⟩ := exists_shows inner h
      exact ⟨_, Dialect.shows_variance v hn⟩
  | nullable inner =>
      obtain ⟨n, hn⟩ := exists_shows inner h
      exact ⟨n, hn.written, hn.read, hn.token⟩
  | star => exact ⟨_, .intro "?" rfl rfl rfl (by decide)⟩
  | root => exact ⟨_, .intro "" rfl rfl rfl (by decide)⟩
  | primitive name =>
      have hname : Dialect.java.Shows owner platforms (.typeParameter name)
          (.text name [] platforms) := Dialect.shows_typeParameter h
      exact ⟨_, hname.written, hname.read, hname.token⟩
  | void => exact ⟨_, .intro "void" rfl rfl rfl (by decide)⟩
  | dynamic => exact ⟨_, .intro "" rfl rfl rfl (by decide)⟩
  | typeParameter name => exact ⟨_, Dialect.shows_typeParameter h⟩

theorem exists_showsAll (ts : List TypeExpr) (h : TypeExpr.NamesOfList Dialect.java.IsName ts) :
  ∀ t ∈ ts, ∃ n, Dialect.java.Shows owner platforms t n
  := by
  cases ts with
  | nil => apply List.forall_mem_nil
  | cons t ts =>
      rw [List.forall_mem_cons]
      exact ⟨exists_shows t h.1, exists_showsAll ts h.2⟩

end

end Java

/-! ### Types that are written alike -/

namespace Dialect

theorem exists_shows (d : Dialect) (owner : SymbolId) (platforms : PlatformSet) {t : TypeExpr}
    (h : t.Names d.IsName) :
  ∃ n, d.Shows owner platforms t n
  := by
  cases d with
  | kotlin => apply Kotlin.exists_shows t h
  | java => apply Java.exists_shows t h

/-- Types with proper names are written alike exactly if they have the same normal form. -/
theorem typeExpr_eq_iff (d : Dialect) (owner : SymbolId) (platforms : PlatformSet)
    {a b : TypeExpr} (ha : a.Names d.IsName) (hb : b.Names d.IsName) :
  d.typeExpr a ⟨Node.factory, owner, platforms⟩ = d.typeExpr b ⟨Node.factory, owner, platforms⟩
    ↔ d.normalForm a = d.normalForm b
  := by
  constructor
  · intro h
    obtain ⟨n, hn⟩ := d.exists_shows owner platforms ha
    obtain ⟨k, hk⟩ := d.exists_shows owner platforms hb
    rw [hn.written, hk.written, List.singleton_inj] at h
    rw [← hn.read, h, hk.read]
  · intro h
    rw [← d.typeExpr_normalForm a, h, d.typeExpr_normalForm b]

/-- What is written for types with proper names tells their normal forms and nothing else: they are
written alike exactly if they have the same normal form, and each of them is one node, from which
its normal form is read. -/
theorem typeExpr_tells_normalForm (d : Dialect) (owner : SymbolId) (platforms : PlatformSet)
    {a b : TypeExpr} (ha : a.Names d.IsName) (hb : b.Names d.IsName) :
  (d.typeExpr a ⟨Node.factory, owner, platforms⟩ = d.typeExpr b ⟨Node.factory, owner, platforms⟩
      ↔ d.normalForm a = d.normalForm b) ∧
    (d.typeExpr a ⟨Node.factory, owner, platforms⟩).map d.read = [d.normalForm a]
  := by
  constructor
  · apply d.typeExpr_eq_iff owner platforms ha hb
  · obtain ⟨n, hn⟩ := d.exists_shows owner platforms ha
    rw [hn.written, List.map_singleton, hn.read]

end Dialect

/-- The type of a function with a receiver that takes an integer, where the name of the function
type and the name of the integers do not show in Kotlin. -/
def TypeExpr.integerAction (function : String) (integer : TypeExpr) : TypeExpr :=
  .named (SymbolId.ofClass "kotlin" function)
    [.typeParameter "T", .variance .contravariant integer, .nullable .void] .extension

theorem typeExpr_tells_normalForm_integerAction :
  ((TypeExpr.integerAction "Function2" (.primitive "int")).Names Dialect.kotlin.IsName ∧
      (TypeExpr.integerAction "KFunction2" (.ofSymbol (SymbolId.ofClass "kotlin" "Int"))).Names
        Dialect.kotlin.IsName) ∧
    ∀ owner platforms,
      Dialect.kotlin.typeExpr (.integerAction "Function2" (.primitive "int"))
          ⟨Node.factory, owner, platforms⟩
        = Dialect.kotlin.typeExpr
            (.integerAction "KFunction2" (.ofSymbol (SymbolId.ofClass "kotlin" "Int")))
            ⟨Node.factory, owner, platforms⟩
  := by
  have ha : (TypeExpr.integerAction "Function2" (.primitive "int")).Names
      Dialect.kotlin.IsName := by
    refine ⟨?_, ?_, trivial, trivial⟩
    · exact ⟨by decide, by decide, by decide⟩
    · exact ⟨by decide, by decide, by decide⟩
  have hb : (TypeExpr.integerAction "KFunction2"
      (.ofSymbol (SymbolId.ofClass "kotlin" "Int"))).Names Dialect.kotlin.IsName := by
    refine ⟨?_, trivial, trivial, trivial⟩
    exact ⟨by decide, by decide, by decide⟩
  constructor
  · exact ⟨ha, hb⟩
  · intro owner platforms
    rw [(Dialect.typeExpr_tells_normalForm .kotlin owner platforms ha hb).1]
    rfl

end PlatformSignatures
