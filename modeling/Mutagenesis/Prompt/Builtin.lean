import Mutagenesis.Text.Characters

/-!
# Templates that come with the program

Two prompt templates and a system prompt, found by their names.
-/
namespace Mutagenesis

/-- Lines, each with its end. -/
def ofLines (lines : List String) : String :=
  String.ofList (lines.flatMap fun line => line.toList ++ ['\n'])

/-- Asks for three replacements of the fragment. -/
def shortTemplate : String :=
  ofLines [
    "Your task is to apply mutation testing to the following code:",
    "```",
    "\x7b\x7b\x7bcode\x7d\x7d\x7d",
    "```",
    "by replacing the PLACEHOLDER expression with a different expression that is syntactically valid",
    "in this context and that changes the behavior of the code. The original code fragment was:",
    "```",
    "\x7b\x7b\x7borig\x7d\x7d\x7d",
    "```",
    "Provide three answers as fenced code blocks containing a single line of code, using the following",
    "template:",
    "",
    "Option 1: The PLACEHOLDER should be replaced with:",
    "```",
    "<code fragment>",
    "```",
    "This would result in different behavior because <brief explanation>.",
    "",
    "Option 2: The PLACEHOLDER should be replaced with:",
    "```",
    "<code fragment>",
    "```",
    "This would result in different behavior because <brief explanation>.",
    "",
    "Option 3: The PLACEHOLDER should be replaced with:",
    "```",
    "<code fragment>",
    "```",
    "This would result in different behavior because <brief explanation>."]

/-- Also says what kind of fragment it is and lists good mutations. -/
def fullTemplate : String :=
  ofLines [
    "Your task is to apply mutation testing to the following code:",
    "```",
    "\x7b\x7b\x7bcode\x7d\x7d\x7d",
    "```",
    "The PLACEHOLDER stands for the \x7b\x7bfeature\x7d\x7d `\x7b\x7b\x7borig\x7d\x7d\x7d`. Replace it with a different expression",
    "that is syntactically valid here and changes the behavior of the code. Good mutations include:",
    "- replacing operands or operators in conditions",
    "- calling a different function or method on the same receiver",
    "- dropping, adding, reordering or changing arguments of calls",
    "- swapping the receiver of a method call",
    "",
    "Do not reproduce the original fragment. Provide three answers, each as a fenced code block that",
    "contains only the replacement:",
    "",
    "Option 1: The PLACEHOLDER should be replaced with:",
    "```",
    "<code fragment>",
    "```",
    "",
    "Option 2: The PLACEHOLDER should be replaced with:",
    "```",
    "<code fragment>",
    "```",
    "",
    "Option 3: The PLACEHOLDER should be replaced with:",
    "```",
    "<code fragment>",
    "```"]

/-- Introduces the model as an expert in mutation testing. -/
def expertPrompt : String :=
  "You are an expert in mutation testing. Your job is to make small changes to a " ++
    "project's code in order to find weaknesses in its test suite. If none of the " ++
    "tests fail after you make a change, that indicates that the tests may not be as " ++
    "effective as they could be."

/-- The template of a name. -/
def builtinTemplate? (name : String) : Option String :=
  [("template.hb", shortTemplate), ("template-full.hb", fullTemplate),
    ("SystemPrompt-MutationTestingExpert.txt", expertPrompt)].lookup name

end Mutagenesis
