import AgentPipeline.Design.Basic
import AgentPipeline.Text.Pattern

/-!
# Screening for prompt injection

Texts that users or models wrote are compared with a catalogue of patterns, seven English and five
Korean ones.  A design with a match is refused at run time; an output with a match is replaced by a
placeholder before another agent sees it.

## Main definitions

* `Injection.catalogue` — the patterns with their sources.
* `Injection.firstMatch`, `Injection.isSuspicious` — comparing a text with the catalogue.
* `Injection.screen` — an output that may be passed on.
* `Design.injection` — the first match among the texts of a design.
-/

namespace AgentPipeline.Injection

open Text Text.Pattern

/-- A pattern of the catalogue and the source by which it is reported. -/
structure Rule where
  source : String
  pattern : Pattern

/-- A run of blanks that may be empty. -/
def gap : Pattern := blanks 0

/-- A run of at least one blank. -/
def space : Pattern := blanks 1

/-- The catalogue, in the order in which matches are reported. -/
def catalogue : List Rule := [
  ⟨r"(?i)\b(ignore|disregard|forget)\s+(all\s+)?(the\s+)?(previous|prior|above|earlier)\s+(instructions|prompts|rules)",
    inOrder [boundary, oneOf "ignore" ["disregard", "forget"], space,
      Pattern.optional (inOrder [literal "all", space]),
      Pattern.optional (inOrder [literal "the", space]),
      oneOf "previous" ["prior", "above", "earlier"], space,
      oneOf "instructions" ["prompts", "rules"]]⟩,
  ⟨r"(?i)\b(reveal|show|print|repeat)\s+(me\s+)?(your|the)\s+(system\s+prompt|hidden\s+instructions)",
    inOrder [boundary, oneOf "reveal" ["show", "print", "repeat"], space,
      Pattern.optional (inOrder [literal "me", space]), oneOf "your" ["the"], space,
      either (inOrder [literal "system", space, literal "prompt"])
        (inOrder [literal "hidden", space, literal "instructions"])]⟩,
  ⟨r"(?i)\bjailbreak", inOrder [boundary, literal "jailbreak"]⟩,
  ⟨r"(?i)\b(enable|enter|activate)\s+developer\s+mode",
    inOrder [boundary, oneOf "enable" ["enter", "activate"], space, literal "developer", space,
      literal "mode"]⟩,
  ⟨r"(?i)\byou\s+are\s+now\s+(dan|unrestricted|unfiltered)\b",
    inOrder [boundary, literal "you", space, literal "are", space, literal "now", space,
      oneOf "dan" ["unrestricted", "unfiltered"], boundary]⟩,
  ⟨r"(?i)</?\s*system\s*>",
    inOrder [literal "<", Pattern.optional (literal "/"), gap, literal "system", gap,
      literal ">"]⟩,
  ⟨r"(?i)\[/?inst\]",
    inOrder [literal "[", Pattern.optional (literal "/"), literal "inst", literal "]"]⟩,
  ⟨r"이전\s*(지시|명령|지침)(을|를)?\s*(모두\s*)?(무시|잊어)",
    inOrder [literal "이전", gap, oneOf "지시" ["명령", "지침"],
      Pattern.optional (oneOf "을" ["를"]), gap,
      Pattern.optional (inOrder [literal "모두", gap]), oneOf "무시" ["잊어"]]⟩,
  ⟨r"시스템\s*프롬프트(를|을)?\s*(보여|알려|출력)",
    inOrder [literal "시스템", gap, literal "프롬프트", Pattern.optional (oneOf "를" ["을"]), gap,
      oneOf "보여" ["알려", "출력"]]⟩,
  ⟨r"지금부터\s*(너는|당신은)",
    inOrder [literal "지금부터", gap, oneOf "너는" ["당신은"]]⟩,
  ⟨r"(규칙|제한)(을|를)?\s*(모두\s*)?무시",
    inOrder [oneOf "규칙" ["제한"], Pattern.optional (oneOf "을" ["를"]), gap,
      Pattern.optional (inOrder [literal "모두", gap]), literal "무시"]⟩,
  ⟨"탈옥", literal "탈옥"⟩]

/-- The first rule of the catalogue that has a match in a text. -/
def firstMatch (text : List Char) : Option Rule :=
  catalogue.find? fun rule => rule.pattern.occursIn text

/-- Whether some rule of the catalogue has a match in a text. -/
def isSuspicious (text : List Char) : Bool :=
  catalogue.any fun rule => rule.pattern.occursIn text

/-- What stands for an output that failed screening. -/
def placeholder : String :=
  "[content removed: failed security screening]"

/-- An output that may be passed on: itself, or the placeholder if it is suspicious. -/
def screen (text : List Char) : List Char :=
  if isSuspicious text then placeholder.toList else text

/-- Why a node refuses to run a design that failed screening. -/
def rejection : String :=
  "prompt injection pattern detected"

end AgentPipeline.Injection

namespace AgentPipeline

/-- The first rule that has a match in one of the texts of a design. -/
def Design.injection (d : Design) : Option Injection.Rule :=
  d.fragments.findSome? fun s => Injection.firstMatch s.toList

end AgentPipeline
