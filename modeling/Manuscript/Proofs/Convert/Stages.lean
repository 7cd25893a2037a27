import Manuscript.Convert.Document
import Manuscript.Proofs.Success
import Manuscript.Proofs.Work

/-!
# Stages of a conversion

What the success of a conversion says about its stages: the text has tokens, the tokens have
blocks, and the document or the package is made of these.
-/

namespace Manuscript.Convert

open Manuscript.Document Manuscript.Formula Manuscript.Markdown Manuscript.Package
  Manuscript.Style Manuscript.Success

variable {σ : Type} {bridge : Bridge σ} {config : Config} {text : List Char} {s : σ} {p : Package}

/-- A text with a document has tokens, and the tokens have the blocks of the document. -/
theorem exists_of_build {document : Document}
    (h : (build bridge config text s).result = .ok document) :
    ∃ stream blocks s', (tokenize text).1 = .ok stream
      ∧ (compose bridge config stream.tokens { bridge := s' }).result = .ok blocks
      ∧ document = ⟨blocks, stream.metadata⟩ := by
  obtain ⟨stream, _, s₁, htokens, h⟩ := Work.exists_of_bind h
  have hstream : (tokenize text).1 = .ok stream :=
    mapError_eq_ok_iff.1 (congrArg Outcome.result htokens)
  obtain ⟨_, _, s₂, -, h⟩ := Work.exists_of_bind h
  obtain ⟨s₃, h⟩ : ∃ s₃, ((composition (compose bridge config stream.tokens) >>= fun blocks =>
      pure ⟨blocks, stream.metadata⟩) s₃).result = .ok document := by
    by_cases htokens : (!stream.tokens.isEmpty) = true
    · simp only [htokens, if_true] at h
      obtain ⟨_, _, s₃, -, h⟩ := Work.exists_of_bind h
      exact ⟨s₃, h⟩
    · simp only [htokens] at h
      exact ⟨s₂, h⟩
  obtain ⟨blocks, _, _, hrun, h⟩ := Work.exists_of_bind h
  exact ⟨stream, blocks, s₃, hstream, mapError_eq_ok_iff.1 (congrArg Outcome.result hrun),
    (Except.ok.inj h).symm⟩

/-- A text with a package has tokens, the tokens have blocks, and the package is made of
    these. -/
theorem exists_of_convert (h : (convert bridge config text s).result = .ok p) :
    ∃ stream blocks s', (tokenize text).1 = .ok stream
      ∧ (compose bridge config stream.tokens { bridge := s' }).result = .ok blocks
      ∧ assemble config ⟨blocks, stream.metadata⟩ = .ok p := by
  obtain ⟨_, _, s₁, -, h⟩ := Work.exists_of_bind h
  -- The bridge may have been asked to be ready first, and then left another state.
  obtain ⟨s₂, h⟩ : ∃ s₂, (convertReady bridge config text s₂).result = .ok p := by
    unfold convertAnnounced at h
    by_cases hneeds : needsBridge text = true
    · simp only [hneeds, if_true] at h
      obtain ⟨_, _, s₂, -, h⟩ := Work.exists_of_bind h
      exact ⟨s₂, h⟩
    · simp only [hneeds] at h
      exact ⟨s₁, h⟩
  obtain ⟨document, _, s₃, hbuild, h⟩ := Work.exists_of_bind h
  obtain ⟨stream, blocks, s', hstream, hblocks, rfl⟩ :=
    exists_of_build (congrArg Outcome.result hbuild)
  obtain ⟨_, _, _, -, h⟩ := Work.exists_of_bind h
  exact ⟨stream, blocks, s', hstream, hblocks, mapError_eq_ok_iff.1 h⟩

end Manuscript.Convert
