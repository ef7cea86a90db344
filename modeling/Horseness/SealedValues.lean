import Horseness.IdealDigests

/-!
Values that are sealed with their digest. Only a value whose digest is that of its core is one
of the type, so what is handed on sealed need not be hashed again to be trusted.
-/

namespace Horseness.SealedValues

open ScriptText JsonValues ScriptEngine JsonPaths Canonical IdealDigests

variable [Engine]

structure Sealed {Core : Type} (domain : JsString) (encode : Core → JsValue) where
  core : Core
  digest : JsString
  authentic : domainDigest domain (encode core) = .ok digest

/-- A value as it is stored, whatever its digest says. -/
structure Serialized (Core : Type) where
  core : Core
  digest : JsString

def withField (name : String) (value : JsValue) : JsValue → JsValue
  | .obj proto fields => .obj proto (fields ++ [(js name, value)])
  | other => other

section Seals

variable {Core : Type} {domain : JsString} {encode : Core → JsValue}

-- sealing fails only where the core has no canonical text
def sealCore (domain : JsString) (encode : Core → JsValue) (core : Core) :
    Except DomainError (Sealed domain encode) :=
  match authentic : domainDigest domain (encode core) with
  | .ok digest => .ok ⟨core, digest, authentic⟩
  | .error failure => .error failure

theorem seal_ok_iff {core : Core} {value : Sealed domain encode} :
    sealCore domain encode core = .ok value ↔ value.core = core := by
  constructor
  · intro sealed
    unfold sealCore at sealed
    split at sealed
    · cases sealed
      rfl
    · cases sealed
  · rintro rfl
    unfold sealCore
    split
    · next digest authentic =>
        cases value with
        | mk core kept sealed =>
            have same : digest = kept := Except.ok.inj (authentic.symm.trans sealed)
            subst same
            rfl
    · next failure refused =>
        rw [value.authentic] at refused
        cases refused

theorem seal_core (value : Sealed domain encode) :
    sealCore domain encode value.core = .ok value := seal_ok_iff.mpr rfl

theorem sealed_ext {left right : Sealed domain encode} (same : left.core = right.core) :
    left = right :=
  Except.ok.inj ((seal_core left).symm.trans (seal_ok_iff.mpr same.symm))

instance (value : JsValue) : Decidable (Valid value) :=
  inferInstanceAs (Decidable (assertJson value = .ok ()))

theorem seal_exists {core : Core} (valid : Valid (encode core)) :
    ∃ value : Sealed domain encode, value.core = core :=
  ⟨⟨core, _, digest_exists domain valid⟩, rfl⟩

def Sealed.serialized (value : Sealed domain encode) : Serialized Core :=
  ⟨value.core, value.digest⟩

theorem sealed_meaning (ideal : Function.Injective Engine.sha256Hex)
    {left right : Sealed domain encode} (same : left.digest = right.digest) :
    meaning (encode left.core) = meaning (encode right.core) :=
  digest_meaning ideal left.authentic (same ▸ right.authentic)

end Seals

end Horseness.SealedValues
