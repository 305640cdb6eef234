-- SUMMARY: The text form of a type of the model is unambiguous as long as names hold no punctuation.
import Bindings.Model.Ty
import Bindings.Proofs.TextForm.Items

/-!
# The text form is unambiguous

The text form brackets function types only where they are nullable and leaves out empty
argument lists, and one comma stands between arguments and between parameters. All the
same it can be read in one way only. The reason is what can follow a type: nothing, a
comma, or the bracket that closes the list it stands in. None of these goes on with a
name, opens an argument list or marks a type as nullable, so that a type ends where its
own text ends.
-/
namespace Bindings.Model

/-! ## What the text shows -/

/-- Whether all names that the text form shows are plain. -/
inductive Ty.IsPlain : Ty → Prop
  | ref {name : Name} {args : List Ty} {description : Option String} {nullable : Bool}
      (inName : name.IsPlain)
      (inArgs : ∀ t ∈ args, Ty.IsPlain t) :
      Ty.IsPlain (.ref ⟨name, args, description, nullable⟩)
  | function {params : List Param} {result : Ty} {description : Option String} {nullable : Bool}
      (inNames : ∀ p ∈ params, IsPlainText p.name)
      (inParams : ∀ p ∈ params, Ty.IsPlain p.ty)
      (inResult : Ty.IsPlain result) :
      Ty.IsPlain (.function params result description nullable)

structure Param.IsPlain (p : Param) : Prop where
  name : IsPlainText p.name
  ty : p.ty.IsPlain

mutual

/-- The type without what the text form does not show: descriptions, initializers and
optionality. -/
def Ty.shown : Ty → Ty
  | .ref ⟨name, args, _, nullable⟩ => .ref ⟨name, Ty.allShown args, none, nullable⟩
  | .function params result _ nullable =>
    .function (Param.allShown params) result.shown none nullable

def Param.shown : Param → Param
  | ⟨name, ty, _, vararg, _⟩ => ⟨name, ty.shown, none, vararg, false⟩

def Ty.allShown : List Ty → List Ty
  | [] => []
  | t :: ts => t.shown :: Ty.allShown ts

def Param.allShown : List Param → List Param
  | [] => []
  | p :: ps => p.shown :: Param.allShown ps

end

theorem Ty.allShown_eq_map (ts : List Ty) : Ty.allShown ts = ts.map Ty.shown := by
  induction ts with
  | nil => rfl
  | cons t ts ih => rw [Ty.allShown, ih, List.map_cons]

theorem Param.allShown_eq_map (ps : List Param) : Param.allShown ps = ps.map Param.shown := by
  induction ps with
  | nil => rfl
  | cons p ps ih => rw [Param.allShown, ih, List.map_cons]

/-! ## Parts of the text -/

/-- The argument list of a reference. -/
def angled (args : List Ty) : List Char :=
  if args.isEmpty then [] else '<' :: ((Text.joined ", " (args.map Ty.text)).toList ++ ['>'])

/-- The mark of a nullable type. -/
def questionMark (nullable : Bool) : List Char := if nullable then ['?'] else []

/-- A function type without the mark for nullable. -/
def arrow (params : List Param) (result : Ty) : List Char :=
  '(' :: ((Text.joined ", " (params.map Param.text)).toList ++
    ')' :: ' ' :: '-' :: '>' :: ' ' :: result.text.toList)

theorem Ty.toList_text_ref (name : Name) (args : List Ty) (description : Option String)
    (nullable : Bool) :
    (Ty.ref ⟨name, args, description, nullable⟩).text.toList =
      name.text.toList ++ (angled args ++ questionMark nullable) := by
  rw [Ty.text, Reference.text, Ty.texts_eq_map]
  unfold angled questionMark
  split <;> split <;> simp

theorem Ty.toList_text_function (params : List Param) (result : Ty) (description : Option String)
    (nullable : Bool) :
    (Ty.function params result description nullable).text.toList =
      if nullable then '(' :: (arrow params result ++ [')', '?']) else arrow params result := by
  rw [Ty.text, Ty.paramTexts_eq_map]
  unfold arrow
  split <;> simp [*]

theorem Param.toList_text (p : Param) :
    p.text.toList = (if p.vararg then "vararg".toList ++ [' '] else []) ++
      (p.name.toList ++ ':' :: ' ' :: p.ty.text.toList) := by
  obtain ⟨name, ty, initializer, vararg, isOptional⟩ := p
  rw [Param.text]
  cases vararg <;> simp

/-! ## How texts begin -/

theorem Ty.IsPlain.opens {t : Ty} (h : t.IsPlain) : Opens t.text.toList := by
  cases h with
  | @ref name args description nullable hname hargs =>
    obtain ⟨c, cs, hhead, hc⟩ := hname.exists_head
    refine ⟨c, cs ++ (angled args ++ questionMark nullable), ?_, .inl hc⟩
    rw [Ty.toList_text_ref, hhead, List.cons_append]
  | function hnames hparams hresult =>
    rw [Ty.toList_text_function]
    split
    next => exact ⟨'(', _, rfl, .inr rfl⟩
    next => exact ⟨'(', _, rfl, .inr rfl⟩

theorem Param.IsPlain.exists_head {p : Param} (h : p.IsPlain) :
    ∃ c cs, p.text.toList = c :: cs ∧ isNameChar c = true := by
  rw [Param.toList_text]
  cases p.vararg with
  | true => exact ⟨'v', _, rfl, rfl⟩
  | false =>
    obtain ⟨c, cs, hhead, hc⟩ := h.name.exists_head
    refine ⟨c, cs ++ ':' :: ' ' :: p.ty.text.toList, ?_, hc⟩
    rw [hhead]
    rfl

theorem Param.IsPlain.opens {p : Param} (h : p.IsPlain) : Opens p.text.toList := by
  obtain ⟨c, cs, hhead, hc⟩ := h.exists_head
  exact ⟨c, cs, hhead, .inl hc⟩

/-! ## References -/

theorem questionMark_append_inj {nullable nullable' : Bool} {rest rest' : List Char}
    (hrest : Ends rest) (hrest' : Ends rest')
    (h : questionMark nullable ++ rest = questionMark nullable' ++ rest') :
    nullable = nullable' ∧ rest = rest' := by
  have hmark (cs : List Char) : ¬ Ends ('?' :: cs) := by
    intro hends
    simpa using hends '?' rfl
  cases nullable with
  | true =>
    cases nullable' with
    | true => exact ⟨rfl, List.append_cancel_left h⟩
    | false =>
      obtain rfl : '?' :: rest = rest' := h
      exact absurd hrest' (hmark rest)
  | false =>
    cases nullable' with
    | true =>
      obtain rfl : rest = '?' :: rest' := h
      exact absurd hrest (hmark rest')
    | false => exact ⟨rfl, h⟩

/-- What follows an argument list does not open one. -/
theorem head_questionMark_append {rest : List Char} (hrest : Ends rest) (nullable : Bool) :
    (questionMark nullable ++ rest).head? ≠ some '<' := by
  intro h
  cases nullable with
  | true => simp [questionMark] at h
  | false => simpa using hrest '<' h

/-- What follows the name of a reference does not go on with it. -/
theorem breaks_angled_append {rest : List Char} (hrest : Ends rest) (args : List Ty)
    (nullable : Bool) : Breaks (angled args ++ (questionMark nullable ++ rest)) := by
  cases args with
  | nil =>
    cases nullable with
    | true => exact breaks_cons rfl
    | false => exact hrest.breaks
  | cons t args => exact breaks_cons rfl

theorem angled_append_inj {args args' : List Ty} (hok : ∀ t ∈ args, t.IsPlain)
    (hargs : ∀ t ∈ args, Legible Ty.text Ty.shown Ty.IsPlain t) (hargs' : ∀ t ∈ args', t.IsPlain)
    {rest rest' : List Char} (hrest : rest.head? ≠ some '<') (hrest' : rest'.head? ≠ some '<')
    (h : angled args ++ rest = angled args' ++ rest') :
    args.map Ty.shown = args'.map Ty.shown ∧ rest = rest' := by
  cases args with
  | nil =>
    cases args' with
    | nil => exact ⟨rfl, h⟩
    | cons t' args' => exact absurd (congrArg List.head? h) hrest
  | cons t args =>
    cases args' with
    | nil => exact absurd (congrArg List.head? h).symm hrest'
    | cons t' args' =>
      have hjoined : (Text.joined ", " ((t :: args).map Ty.text)).toList ++ '>' :: rest =
          (Text.joined ", " ((t' :: args').map Ty.text)).toList ++ '>' :: rest' := by
        simpa [angled] using h
      exact joined_append_inj (fun _ => Ty.IsPlain.opens) (.inl rfl) hok hargs hargs' hjoined

/-- A reference begins with its name, a function type with a bracket. -/
theorem ref_append_ne_function {name : Name} {args : List Ty} {description : Option String}
    {nullable : Bool} {params : List Param} {result : Ty} {description' : Option String}
    {nullable' : Bool} {rest rest' : List Char} (hname : name.IsPlain) :
    (Ty.ref ⟨name, args, description, nullable⟩).text.toList ++ rest ≠
      (Ty.function params result description' nullable').text.toList ++ rest' := by
  intro h
  obtain ⟨c, cs, hhead, hc⟩ := hname.exists_head
  rw [Ty.toList_text_ref, Ty.toList_text_function, hhead] at h
  have hbracket : c = '(' := by
    cases nullable' with
    | true => exact (List.cons.inj h).1
    | false => exact (List.cons.inj h).1
  subst hbracket
  cases hc

theorem legible_ref {name : Name} {args : List Ty} {description : Option String} {nullable : Bool}
    (hname : name.IsPlain) (hok : ∀ t ∈ args, t.IsPlain)
    (hargs : ∀ t ∈ args, Legible Ty.text Ty.shown Ty.IsPlain t) :
    Legible Ty.text Ty.shown Ty.IsPlain (.ref ⟨name, args, description, nullable⟩) := by
  intro t' ht' rest rest' hrest hrest' h
  rw [Ty.toList_text_ref] at h
  cases ht' with
  | @ref name' args' description' nullable' hname' hargs' =>
    rw [Ty.toList_text_ref] at h
    simp only [List.append_assoc] at h
    obtain ⟨hnames, h⟩ := name_append_inj hname.isNameChar hname'.isNameChar
      (breaks_angled_append hrest args nullable) (breaks_angled_append hrest' args' nullable') h
    obtain ⟨hshown, h⟩ := angled_append_inj hok hargs hargs'
      (head_questionMark_append hrest nullable) (head_questionMark_append hrest' nullable') h
    obtain ⟨rfl, hrests⟩ := questionMark_append_inj hrest hrest' h
    obtain rfl := hname.text_inj hname' (String.toList_inj.mp hnames)
    refine ⟨?_, hrests⟩
    rw [Ty.shown, Ty.shown, Ty.allShown_eq_map, Ty.allShown_eq_map, hshown]
  | function hnames' hparams' hresult' =>
    rw [← Ty.toList_text_ref name args description nullable] at h
    exact absurd h (ref_append_ne_function hname)

/-! ## Parameters and function types -/

theorem Param.shown_eq (p : Param) : p.shown = ⟨p.name, p.ty.shown, none, p.vararg, false⟩ := by
  obtain ⟨name, ty, initializer, vararg, isOptional⟩ := p
  rfl

/-- A parameter that is called `vararg` goes on with a colon, a label with a blank. -/
theorem label_append_ne {name : String} {cs cs' : List Char} (hname : IsPlainText name) :
    "vararg".toList ++ ' ' :: cs ≠ name.toList ++ ':' :: cs' := by
  intro h
  have hlabel : ∀ c ∈ "vararg".toList, isNameChar c = true := by
    simp [isNameChar, punctuation]
  obtain ⟨-, hrest⟩ := name_append_inj hlabel hname.isNameChar (breaks_cons rfl) (breaks_cons rfl) h
  obtain ⟨hblank, -⟩ := List.cons.inj hrest
  revert hblank
  decide

theorem legible_param {p : Param} (hp : p.IsPlain)
    (hty : Legible Ty.text Ty.shown Ty.IsPlain p.ty) :
    Legible Param.text Param.shown Param.IsPlain p := by
  intro p' hp' rest rest' hrest hrest' h
  rw [Param.toList_text, Param.toList_text] at h
  simp only [List.append_assoc, List.cons_append] at h
  -- Once the labels are known to agree they can be cut off, and the names come first.
  have hvararg : p.vararg = p'.vararg := by
    cases hv : p.vararg with
    | true =>
      cases hv' : p'.vararg with
      | true => rfl
      | false =>
        rw [hv, hv'] at h
        exact absurd (by simpa using h) (label_append_ne hp'.name)
    | false =>
      cases hv' : p'.vararg with
      | true =>
        rw [hv, hv'] at h
        exact absurd (by simpa using h.symm) (label_append_ne hp.name)
      | false => rfl
  rw [hvararg] at h
  obtain ⟨hnames, hrests⟩ := name_append_inj hp.name.isNameChar hp'.name.isNameChar
    (breaks_cons rfl) (breaks_cons rfl) (List.append_cancel_left h)
  have htypes : p.ty.text.toList ++ rest = p'.ty.text.toList ++ rest' := by
    simpa using hrests
  obtain ⟨hshown, hrests⟩ := hty p'.ty hp'.ty rest rest' hrest hrest' htypes
  refine ⟨?_, hrests⟩
  rw [Param.shown_eq, Param.shown_eq, String.toList_inj.mp hnames, hshown, hvararg]

theorem arrow_append_inj {params params' : List Param} {result result' : Ty}
    (hok : ∀ p ∈ params, p.IsPlain)
    (hparams : ∀ p ∈ params, Legible Param.text Param.shown Param.IsPlain p)
    (hresult : Legible Ty.text Ty.shown Ty.IsPlain result)
    (hparams' : ∀ p ∈ params', p.IsPlain) (hresult' : result'.IsPlain)
    {rest rest' : List Char} (hrest : Ends rest) (hrest' : Ends rest')
    (h : arrow params result ++ rest = arrow params' result' ++ rest') :
    params.map Param.shown = params'.map Param.shown ∧ result.shown = result'.shown ∧
      rest = rest' := by
  have hlists : (Text.joined ", " (params.map Param.text)).toList ++
        ')' :: ' ' :: '-' :: '>' :: ' ' :: (result.text.toList ++ rest) =
      (Text.joined ", " (params'.map Param.text)).toList ++
        ')' :: ' ' :: '-' :: '>' :: ' ' :: (result'.text.toList ++ rest') := by
    simpa [arrow] using h
  obtain ⟨hshown, htail⟩ := joined_append_inj (fun _ => Param.IsPlain.opens) (.inr rfl) hok hparams
    hparams' hlists
  have hresults : result.text.toList ++ rest = result'.text.toList ++ rest' := by
    simpa using htail
  obtain ⟨hresults, hrests⟩ := hresult result' hresult' rest rest' hrest hrest' hresults
  exact ⟨hshown, hresults, hrests⟩

/-- A function type in brackets has two of them in front, any other only one. -/
theorem bracketed_append_ne {params params' : List Param} {result result' : Ty}
    {cs cs' : List Char} (hparams' : ∀ p ∈ params', p.IsPlain) :
    '(' :: (arrow params result ++ cs) ≠ arrow params' result' ++ cs' := by
  intro h
  obtain ⟨-, h⟩ := List.cons.inj h
  cases params' with
  | nil =>
    obtain ⟨hbracket, -⟩ := List.cons.inj h
    revert hbracket
    decide
  | cons p' params' =>
    obtain ⟨c, ds, hhead, hc⟩ := (hparams' p' (.head params')).exists_head
    rw [List.map_cons, toList_joined_cons, hhead] at h
    obtain ⟨rfl, -⟩ := List.cons.inj h
    cases hc

theorem legible_function {params : List Param} {result : Ty} {description : Option String}
    {nullable : Bool} (hok : ∀ p ∈ params, p.IsPlain)
    (hparams : ∀ p ∈ params, Legible Param.text Param.shown Param.IsPlain p)
    (hresult : Legible Ty.text Ty.shown Ty.IsPlain result) :
    Legible Ty.text Ty.shown Ty.IsPlain (.function params result description nullable) := by
  intro t' ht' rest rest' hrest hrest' h
  cases ht' with
  | ref hname' hargs' => exact absurd h.symm (ref_append_ne_function hname')
  | @function params' result' description' nullable' hnames' htypes' hresult' =>
    have hparams' : ∀ p ∈ params', p.IsPlain := fun p hp => ⟨hnames' p hp, htypes' p hp⟩
    rw [Ty.toList_text_function, Ty.toList_text_function] at h
    have hnullable : nullable = nullable' := by
      cases nullable with
      | true =>
        cases nullable' with
        | true => rfl
        | false => exact absurd (by simpa using h) (bracketed_append_ne hparams')
      | false =>
        cases nullable' with
        | true => exact absurd (by simpa using h.symm) (bracketed_append_ne hok)
        | false => rfl
    subst hnullable
    have hshown : params.map Param.shown = params'.map Param.shown ∧
        result.shown = result'.shown ∧ rest = rest' := by
      cases nullable with
      | true =>
        -- The result of a nullable function type ends at the bracket that closes the type.
        have hbracket (cs : List Char) : Ends (')' :: cs) := ends_continued (.inr rfl) []
        have harrows : arrow params result ++ ')' :: '?' :: rest =
            arrow params' result' ++ ')' :: '?' :: rest' := by
          simpa using h
        obtain ⟨hps, hr, hrests⟩ := arrow_append_inj hok hparams hresult hparams' hresult'
          (hbracket _) (hbracket _) harrows
        exact ⟨hps, hr, by simpa using hrests⟩
      | false => exact arrow_append_inj hok hparams hresult hparams' hresult' hrest hrest' h
    obtain ⟨hps, hr, hrests⟩ := hshown
    refine ⟨?_, hrests⟩
    rw [Ty.shown, Ty.shown, Param.allShown_eq_map, Param.allShown_eq_map, hps, hr]

/-! ## The text form -/

theorem Ty.IsPlain.legible {t : Ty} (h : t.IsPlain) :
    Legible Ty.text Ty.shown Ty.IsPlain t := by
  induction h with
  | ref hname hargs ih => exact legible_ref hname hargs ih
  | @function params result description nullable hnames hparams hresult ihparams ihresult =>
    have hok : ∀ p ∈ params, p.IsPlain := fun p hp => ⟨hnames p hp, hparams p hp⟩
    refine legible_function hok ?_ ihresult
    intro p hp
    exact legible_param (hok p hp) (ihparams p hp)

mutual

/-- What the text form does not show has no part in it. -/
theorem Ty.text_shown (t : Ty) : t.shown.text = t.text := by
  cases t with
  | ref r =>
    obtain ⟨name, args, description, nullable⟩ := r
    have hargs := Ty.texts_allShown args
    have hempty : (Ty.allShown args).isEmpty = args.isEmpty := by cases args <;> rfl
    rw [Ty.shown, Ty.text, Ty.text, Reference.text, Reference.text, hargs, hempty]
  | function params result description nullable =>
    have hparams := Ty.paramTexts_allShown params
    have hresult := Ty.text_shown result
    rw [Ty.shown, Ty.text, Ty.text, hparams, hresult]

private theorem Param.text_shown (p : Param) : p.shown.text = p.text := by
  obtain ⟨name, ty, initializer, vararg, isOptional⟩ := p
  have hty := Ty.text_shown ty
  rw [Param.shown, Param.text, Param.text, hty]

private theorem Ty.texts_allShown (ts : List Ty) : Ty.texts (Ty.allShown ts) = Ty.texts ts := by
  cases ts with
  | nil => rfl
  | cons t ts =>
    have ht := Ty.text_shown t
    have hts := Ty.texts_allShown ts
    rw [Ty.allShown, Ty.texts, Ty.texts, ht, hts]

private theorem Ty.paramTexts_allShown (ps : List Param) :
    Ty.paramTexts (Param.allShown ps) = Ty.paramTexts ps := by
  cases ps with
  | nil => rfl
  | cons p ps =>
    have hp := Param.text_shown p
    have hps := Ty.paramTexts_allShown ps
    rw [Param.allShown, Ty.paramTexts, Ty.paramTexts, hp, hps]

end

/-- Two types with plain names have one text form exactly if they are equal but for
descriptions, initializers and optionality. -/
theorem Ty.text_eq_text_iff {t t' : Ty} (ht : t.IsPlain) (ht' : t'.IsPlain) :
    t.text = t'.text ↔ t.shown = t'.shown := by
  constructor
  · intro h
    have hends : Ends [] := nofun
    have htexts : t.text.toList ++ [] = t'.text.toList ++ [] := by rw [h]
    exact (ht.legible t' ht' [] [] hends hends htexts).1
  · intro h
    rw [← Ty.text_shown t, h, Ty.text_shown]

/-- `(f: List<t>, vararg n: B) -> lib.C` -/
def callback (t : Ty) : Ty :=
  .function
    [⟨"f", .ref ⟨.ident "List", [t], none, false⟩, none, false, true⟩,
      ⟨"n", .ref (.simple (.ident "B")), none, true, false⟩]
    (.ref (.simple ((Name.ident "lib").append "C"))) none false

theorem isPlain_callback {t : Ty} (h : t.IsPlain) : (callback t).IsPlain := by
  refine .function ?_ ?_ (.ref (by decide) nofun)
  · simp only [List.forall_mem_cons, List.not_mem_nil, false_implies, implies_true, and_true]
    decide
  · simp only [List.forall_mem_cons, List.not_mem_nil, false_implies, implies_true, and_true]
    refine ⟨.ref (by decide) ?_, .ref (by decide) nofun⟩
    simpa using h

/-- `() -> A?` with the description that the result has there. -/
def nullableResult : Ty := .function [] (.ref ⟨.ident "A", [], some "= null", true⟩) none false

/-- `(() -> A)?` -/
def nullableFunction : Ty := .function [] (.ref (.simple (.ident "A"))) none true

/-- Inside another type the text still tells whether a function type or its result is
nullable. -/
theorem text_callback_ne :
    (callback nullableResult).IsPlain ∧ (callback nullableFunction).IsPlain ∧
      ((callback nullableResult).text = (callback nullableFunction).text ↔
        (callback nullableResult).shown = (callback nullableFunction).shown) ∧
      (callback nullableResult).text ≠ (callback nullableFunction).text := by
  have hresult : (callback nullableResult).IsPlain :=
    isPlain_callback (.function nofun nofun (.ref (by decide) nofun))
  have hfunction : (callback nullableFunction).IsPlain :=
    isPlain_callback (.function nofun nofun (.ref (by decide) nofun))
  have h := Ty.text_eq_text_iff hresult hfunction
  refine ⟨hresult, hfunction, h, ?_⟩
  rw [Ne, h]
  simp [callback, nullableResult, nullableFunction, Ty.shown, Param.shown, Ty.allShown,
    Param.allShown]

end Bindings.Model
