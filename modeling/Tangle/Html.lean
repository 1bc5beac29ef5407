/-
This file renders the HTML report: a page with one table row per function, tagged
by status so that the page can filter the rows without a server. Every name is
escaped on its way into the page.
-/

import Tangle.Report

namespace Tangle.Html

/-- The character reference of a character that has a meaning in markup. -/
def escapeChar (c : Char) : List Char :=
  match c with
  | '&' => "&amp;".toList
  | '<' => "&lt;".toList
  | '>' => "&gt;".toList
  | '"' => "&quot;".toList
  | '\'' => "&#x27;".toList
  | c => [c]

/-- Text made safe for the page. -/
def escape (text : String) : String :=
  String.ofList (text.toList.flatMap escapeChar)

/-! ### Rows -/

/-- The coloured dot of a status. -/
def badge : Status → String
  | .error => String.singleton (Char.ofNat 0x1F534)
  | .warning => String.singleton (Char.ofNat 0x1F7E1)
  | .none => String.singleton (Char.ofNat 0x1F7E2)

/-- The tag that the filter buttons look for. -/
def rowStatus : Status → String
  | .error => "error"
  | .warning => "warning"
  | .none => "ok"

/-- The cells of a function. -/
def cells (file : String) (function : FunctionReport) : List String :=
  [escape file, toString function.line, escape (function.name ++ "()"), badge function.status,
    toString function.cyclomatic.total, toString function.cognitive.total]

/-- The row of a function. -/
def row (file : String) (function : FunctionReport) : String :=
  "        <tr data-status=\"" ++ rowStatus function.status ++ "\">" ++
    String.join ((cells file function).map fun cell => "<td>" ++ cell ++ "</td>") ++ "</tr>"

/-- The rows of all functions of all files. -/
def rows (reports : List FileReport) : List String :=
  reports.flatMap fun report => report.functions.map (row report.file)

/-! ### The page -/

/-- The page up to the summary. -/
def head : String :=
  "\n".intercalate
  ["<!doctype html>",
   "<html lang=\"en\">",
   "  <head>",
   "    <meta charset=\"utf-8\" />",
   "    <meta name=\"viewport\" content=\"width=device-width, initial-scale=1\" />",
   "    <title>Onion Tears Complexity Report</title>",
   "    <style>",
   "      body \x7b font-family: -apple-system, BlinkMacSystemFont, 'Segoe UI', Roboto, sans-serif; margin: 24px; \x7d",
   "      h1 \x7b font-size: 20px; margin-bottom: 12px; \x7d",
   "      .controls \x7b margin: 12px 0 16px; display: flex; gap: 8px; align-items: center; \x7d",
   "      .controls button \x7b padding: 6px 10px; border: 1px solid #ccc; background: #fff; border-radius: 6px; cursor: pointer; \x7d",
   "      .controls button.active \x7b background: #f0f7ff; border-color: #70a5ff; \x7d",
   "      table \x7b width: 100%; border-collapse: collapse; \x7d",
   "      thead th \x7b text-align: left; font-weight: 600; border-bottom: 2px solid #ccc; padding: 8px; \x7d",
   "      tbody td \x7b border-bottom: 1px solid #eee; padding: 8px; \x7d",
   "    </style>",
   "  </head>",
   "  <body>",
   "    <h1>Onion Tears Complexity Report</h1>",
   "    <p>"]

/-- The page between the summary and the rows. -/
def middle : String :=
  "\n".intercalate
  ["</p>",
   "    <div class=\"controls\">",
   "      <span>Filter:</span>",
   "      <button data-filter=\"all\" class=\"active\">All</button>",
   "      <button data-filter=\"error\">Errors</button>",
   "      <button data-filter=\"warning\">Warnings</button>",
   "      <button data-filter=\"ok\">OK</button>",
   "    </div>",
   "    <table>",
   "      <thead>",
   "        <tr>",
   "          <th>File</th>",
   "          <th>Line</th>",
   "          <th>Function</th>",
   "          <th>Threshold</th>",
   "          <th>Cyclomatic</th>",
   "          <th>Cognitive</th>",
   "        </tr>",
   "      </thead>",
   "      <tbody>",
   ""]

/-- The page behind the rows. -/
def foot : String :=
  "\n".intercalate
  ["",
   "      </tbody>",
   "    </table>",
   "    <script>",
   "      (function () \x7b",
   "        const buttons = document.querySelectorAll('.controls button');",
   "        const rows = Array.from(document.querySelectorAll('tbody tr'));",
   "        buttons.forEach(function (btn) \x7b",
   "          btn.addEventListener('click', function () \x7b",
   "            const filter = btn.getAttribute('data-filter');",
   "            buttons.forEach(function (b) \x7b b.classList.toggle('active', b === btn); \x7d);",
   "            rows.forEach(function (row) \x7b",
   "              const show = filter === 'all' || row.getAttribute('data-status') === filter;",
   "              row.style.display = show ? '' : 'none';",
   "            \x7d);",
   "          \x7d);",
   "        \x7d);",
   "      \x7d)();",
   "    </script>",
   "  </body>",
   "</html>",
   ""]

/-- The counts at the top of the page. -/
def summaryText (reports : List FileReport) : String :=
  toString reports.length ++ " files, " ++ toString (rows reports).length ++ " functions, " ++
    toString (countStatus reports .error) ++ " errors, " ++
    toString (countStatus reports .warning) ++ " warnings"

/-- The report on a batch of files. -/
def page (reports : List FileReport) : String :=
  head ++ escape (summaryText reports) ++ middle ++ "\n".intercalate (rows reports) ++ foot

end Tangle.Html
