import Readiness.Report.Summary

/-!
The report as an HTML document. It is put together from markup, which stands as it is, and texts,
which are escaped, so that no text can be taken for markup.
-/

namespace Readiness.Report.Html

def escapeChar : Char → List Char
  | '&' => "&amp;".toList
  | '<' => "&lt;".toList
  | '>' => "&gt;".toList
  | '"' => "&quot;".toList
  | '\'' => "&#39;".toList
  | c => [c]

def escape (text : String) : String := String.ofList (text.toList.flatMap escapeChar)

inductive Piece
  | markup (source : String)
  | text (content : String)
  deriving DecidableEq, Repr

def Piece.source : Piece → String
  | markup source => source
  | text content => escape content

def line (source : String) : List Piece := [.markup (source ++ "\n")]

/-- A line with a text between two pieces of markup. -/
def textLine (before content after : String) : List Piece :=
  [.markup before, .text content, .markup (after ++ "\n")]

def styleRules : List String :=
  ["body \x7b font-family: 'Segoe UI', Arial, sans-serif; margin: 20px; background: #f5f5f5; \x7d",
   "h1 \x7b color: #2c3e50; \x7d",
   ".container \x7b max-width: 900px; margin: 0 auto; background: white; padding: 30px; " ++
     "border-radius: 8px; box-shadow: 0 2px 4px rgba(0,0,0,0.1); \x7d",
   ".check-item \x7b margin: 15px 0; padding: 15px; border-left: 4px solid #ccc; " ++
     "background: #f9f9f9; \x7d",
   ".passed \x7b border-left-color: #27ae60; \x7d",
   ".failed \x7b border-left-color: #e74c3c; \x7d",
   ".warning \x7b border-left-color: #f39c12; \x7d",
   ".message \x7b font-weight: bold; margin-bottom: 5px; \x7d",
   ".details \x7b color: #666; font-size: 0.9em; \x7d",
   ".summary \x7b padding: 20px; margin: 20px 0; border-radius: 5px; \x7d",
   ".summary.success \x7b background: #d5f4e6; border: 1px solid #27ae60; \x7d",
   ".summary.error \x7b background: #fadbd8; border: 1px solid #e74c3c; \x7d",
   ".critical \x7b background: #fee; \x7d"]

def defaultTitle : String := "System Requirements Check"

def head (title : String) : List Piece :=
  line "<!DOCTYPE html>" ++ line "<html>" ++ line "<head>" ++
  line "    <meta charset='UTF-8'>" ++ textLine "    <title>" title "</title>" ++
  line "    <style>" ++ styleRules.flatMap (fun rule => line ("        " ++ rule)) ++
  line "    </style>" ++ line "</head>"

def summaryClass (v : Verdict) : String := if v.canInstall then "success" else "error"

def summaryBlock (v : Verdict) : List Piece :=
  let summary := Report.summary v
  line ("        <div class='summary " ++ summaryClass v ++ "'>") ++
  line ("            <h2>" ++ summary.headline ++ "</h2>") ++
  textLine "            <p>" summary.detail "</p>" ++
  line "        </div>"

def itemClass : ReportClass → String
  | .passed => "passed"
  | .blocking => "failed critical"
  | .advisory => "warning"

def itemTag (c : ReportClass) (id : CheckId) : String :=
  "            <div class='check-item " ++ itemClass c ++ "' data-check='" ++ id.key ++ "'>"

def item (r : CheckResult) : List Piece :=
  line (itemTag r.reportClass r.id) ++
  textLine "                <div class='message'>" r.message "</div>" ++
  textLine "                <div class='details'>" r.details "</div>" ++
  line "            </div>"

def document (title : String) (results : List CheckResult) (v : Verdict) : List Piece :=
  head title ++ line "<body>" ++ line "    <div class='container'>" ++
  textLine "        <h1>" title "</h1>" ++ summaryBlock v ++
  line "        <div style='margin-top: 30px;'>" ++ results.flatMap item ++
  line "        </div>" ++ line "    </div>" ++ line "</body>" ++ line "</html>"

def text (title : String) (results : List CheckResult) (v : Verdict) : String :=
  String.join ((document title results v).map Piece.source)

end Readiness.Report.Html
