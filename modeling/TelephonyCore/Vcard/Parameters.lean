import TelephonyCore.Vcard.Decoder

/-!
# Quoted parameter values

`BuildRawData` leaves the quoted state after one character, whatever it is. So a quoted text is
protected in its first character only, and the closing quote protects the semicolon behind it.
`scanParams` gives the texts that are handed to `DealParams`, and the raw value.
-/

namespace TelephonyCore.Vcard

open Codec List Property

def scanParams (quoted : Bool) (part : StdString) : StdString → List StdString × Option StdString
  | [] => ([], none)
  | c :: rest =>
    if quoted then scanParams false (part ++ [c]) rest
    else if c = 34 then scanParams true (part ++ [c]) rest
    else if c = 59 then (part :: (scanParams false [] rest).1, (scanParams false [] rest).2)
    else if c = 58 then ([part], some rest)
    else scanParams false (part ++ [c]) rest

section BuildRawData

variable (platform : Platform) (v : Version)

def Property.dealAll (p : Property) (parts : List StdString × Option StdString) : Option Property :=
  (parts.1.foldlM (fun (p : Property) part => p.dealParams platform v part) p).map fun p =>
    { p with rawData := { p.rawData with rawValue := parts.2.getD p.rawData.rawValue } }

theorem buildFrom_params (text : StdString) : ∀ quoted part p,
    buildFrom platform v [] (if quoted then .paramsInDquote else .params) part p text =
      p.dealAll platform v (scanParams quoted part text) := by
  induction text with
  | nil =>
    intro quoted part p
    simp [buildFrom, scanParams, dealAll]
  | cons c rest ih =>
    intro quoted part p
    cases quoted with
    | true => exact ih false (part ++ [c]) p
    | false =>
      rw [if_neg Bool.false_ne_true, buildFrom, scanParams, if_neg Bool.false_ne_true]
      split
      · exact ih true (part ++ [c]) p
      · split
        · cases hdl : p.dealParams platform v part with
          | none => simp [dealAll, hdl]
          | some p' =>
            refine (ih false [] p').trans ?_
            simp [dealAll, hdl]
        · split
          · cases hdl : p.dealParams platform v part with
            | none => simp [dealAll, hdl]
            | some p' => simp [dealAll, hdl, rawValueOf]
          · exact ih false (part ++ [c]) p

theorem buildFrom_name {name : StdString} (h : ∀ c ∈ name, c ≠ 58 ∧ c ≠ 46 ∧ c ≠ 59)
    (text part : StdString) (p : Property) :
    buildFrom platform v [] .groupOrTypeName part p (name ++ 59 :: text) =
      buildFrom platform v [] .params []
        { p with rawData := { p.rawData with name := part ++ name } } text := by
  induction name generalizing part with
  | nil =>
    rw [append_nil]
    rfl
  | cons c name ih =>
    obtain ⟨hcl, hdt, hs⟩ := h c mem_cons_self
    rw [cons_append, buildFrom]
    rw [if_neg hcl, if_neg hdt, if_neg hs, ih fun c' hc => h c' (mem_cons_of_mem c hc),
      append_assoc, singleton_append]

end BuildRawData

/-- Neither a quote nor a separator. -/
def Plain (s : StdString) : Prop := ∀ c ∈ s, c ≠ 34 ∧ c ≠ 59 ∧ c ≠ 58

instance (s : StdString) : Decidable (Plain s) :=
  inferInstanceAs (Decidable (∀ c ∈ s, c ≠ 34 ∧ c ≠ 59 ∧ c ≠ 58))

variable {s part rest : StdString}

theorem scanParams_plain (h : Plain s) :
    scanParams false part (s ++ rest) = scanParams false (part ++ s) rest := by
  induction s generalizing part with
  | nil => rw [append_nil, nil_append]
  | cons c s ih =>
    obtain ⟨hq, hs, hcl⟩ := h c mem_cons_self
    rw [cons_append, scanParams, if_neg Bool.false_ne_true, if_neg hq, if_neg hs,
      if_neg hcl, ih fun c' hc => h c' (mem_cons_of_mem c hc), append_assoc, singleton_append]

theorem scanParams_quote (c : UInt8) :
    scanParams false part (34 :: c :: rest) = scanParams false (part ++ [34, c]) rest := by
  simp [scanParams]

/-- The text up to its first separator. -/
theorem exists_separator (h : 34 ∉ s) (hn : ¬(58 ∉ s ∧ 59 ∉ s)) :
    ∃ a x b, s = a ++ x :: b ∧ Plain a ∧ (x = 59 ∨ x = 58) := by
  induction s with
  | nil => exact absurd ⟨not_mem_nil, not_mem_nil⟩ hn
  | cons c s ih =>
    by_cases hc : c = 59 ∨ c = 58
    · exact ⟨[], c, s, rfl, fun _ hm => absurd hm not_mem_nil, hc⟩
    · obtain ⟨hs, hcl⟩ := not_or.1 hc
      have hq : c ≠ 34 := fun heq => h (heq ▸ mem_cons_self)
      obtain ⟨a, x, b, rfl, ha, hx⟩ := ih (fun hm => h (mem_cons_of_mem c hm)) fun hb =>
        hn ⟨by simp [Ne.symm hcl, hb.1], by simp [Ne.symm hs, hb.2]⟩
      exact ⟨c :: a, x, b, rfl, forall_mem_cons.2 ⟨⟨hq, hs, hcl⟩, ha⟩, hx⟩

/-- **Quoted parameter values.** The raw value and the parameters are cut outside of the quotes
exactly when the quoted text has no separator behind its first character. Even then the semicolon
behind the closing quote does not separate the parameters. -/
theorem quoted_parameter_iff (platform : Platform) (v : Version)
    (name param q other value : StdString) (hname : ∀ c ∈ name, c ≠ 58 ∧ c ≠ 46 ∧ c ≠ 59)
    (hcomment : (name ++ [59]).head? ≠ some 35) (hparam : Plain param) (hother : Plain other)
    (hq : 34 ∉ q) (hne : q ≠ [])
    (hsize : (name ++ 59 :: (param ++ 34 :: q ++ [34] ++ 59 :: other ++ 58 :: value)).length
      < 2 ^ 31) :
    let quoted := param ++ 34 :: q ++ [34]
    let parts := scanParams false [] (quoted ++ 59 :: other ++ 58 :: value)
    buildRawData platform v (name ++ 59 :: (quoted ++ 59 :: other ++ 58 :: value)) =
        dealAll platform v { rawData := { name } } parts ∧
      (parts.2 = some value ∧ (parts.1 = [quoted, other] ∨ parts.1 = [quoted ++ 59 :: other]) ↔
          58 ∉ q.tail ∧ 59 ∉ q.tail) ∧
      parts.1 ≠ [quoted, other] := by
  intro quoted parts
  refine ⟨?_, ?_⟩
  · have hh : (name ++ 59 :: (quoted ++ 59 :: other ++ 58 :: value)).head? ≠ some 35 := by
      cases name with
      | nil => exact hcomment
      | cons c name => exact hcomment
    rw [buildRawData_counted platform v hsize, if_neg hh, buildFrom_name platform v hname]
    exact buildFrom_params platform v _ false [] _
  obtain ⟨c, q, rfl⟩ := exists_cons_of_ne_nil hne
  have hq' : 34 ∉ q := fun hmm => hq (mem_cons_of_mem c hmm)
  have hpr : parts = scanParams false (param ++ [34, c]) (q ++ 34 :: 59 :: other ++ 58 :: value) := by
    show scanParams false [] _ = _
    rw [← scanParams_quote, ← nil_append param, ← scanParams_plain hparam]
    simp [quoted]
  by_cases hsp : 58 ∉ q ∧ 59 ∉ q
  · have hpl : Plain q := fun x hx =>
      ⟨fun h => hq' (h ▸ hx), fun h => hsp.2 (h ▸ hx), fun h => hsp.1 (h ▸ hx)⟩
    have hal : parts = ([quoted ++ 59 :: other], some value) := by
      rw [hpr, append_assoc, scanParams_plain hpl, cons_append, cons_append,
        scanParams_quote, scanParams_plain hother]
      simp [scanParams, quoted]
    rw [hal]
    refine ⟨iff_of_true ⟨rfl, .inr rfl⟩ hsp, fun heq => ?_⟩
    exact absurd (congrArg length heq) (by simp)
  · obtain ⟨a, x, b, rfl, ha, hx⟩ := exists_separator hq' hsp
    have hsc : parts = scanParams false (param ++ [34, c] ++ a)
        (x :: b ++ 34 :: 59 :: other ++ 58 :: value) := by
      rw [hpr, ← scanParams_plain ha]
      simp
    rcases hx with rfl | rfl
    · have hf : ∃ more, parts.1 = (param ++ [34, c] ++ a) :: more := by
        rw [hsc]
        exact ⟨_, rfl⟩
      obtain ⟨more, hmr⟩ := hf
      have hle : ∀ t l, parts.1 ≠ (quoted ++ t) :: l := by
        intro t l heq
        have hln := congrArg length (cons_eq_cons.1 (hmr.symm.trans heq)).1
        simp [quoted] at hln
      have hsl := hle [] [other]
      rw [append_nil] at hsl
      exact ⟨iff_of_false (fun h => h.2.elim hsl (hle _ _)) hsp, hsl⟩
    · have hct : parts = ([param ++ [34, c] ++ a], some (b ++ 34 :: 59 :: other ++ 58 :: value)) :=
        hsc
      rw [hct]
      refine ⟨iff_of_false (fun h => ?_) hsp, fun heq => absurd (congrArg length heq) (by simp)⟩
      have hln := congrArg length (Option.some.inj h.1)
      simp at hln
      omega

theorem quoted_parameter_sample :
    (scanParams false [] (ascii "X-P=" ++ 34 :: ascii ":" ++ [34] ++ 59 :: ascii "X-Q=r" ++
      58 :: ascii "1")).2 = some (ascii "1") :=
  ((quoted_parameter_iff ⟨fun _ text => some text, some⟩ .v30 (ascii "TEL") (ascii "X-P=")
    (ascii ":") (ascii "X-Q=r") (ascii "1") (by decide +kernel) (by decide) (by decide +kernel)
    (by decide +kernel) (by decide) (by decide) (by decide)).2.1.2 (by decide)).1

/-- A colon in the quotes begins the raw value. -/
theorem quoted_colon_cuts :
    (buildRawData ⟨fun _ text => some text, some⟩ .v30
        (ascii "TEL;X-P=\"a:b\";X-Q=r:1")).map (·.rawData.rawValue) =
      some (ascii "b\";X-Q=r:1") := by
  decide +kernel

end TelephonyCore.Vcard
