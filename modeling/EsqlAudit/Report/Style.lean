/-!
The style sheet of report pages.
-/
namespace EsqlAudit.Report.Html

/-- The rules that give a page its looks. -/
def styleSheet : String :=
  "\n".intercalate [
    "* \x7b",
    "    margin: 0;",
    "    padding: 0;",
    "    box-sizing: border-box;",
    "\x7d",
    "",
    "body \x7b",
    "    font-family: -apple-system, BlinkMacSystemFont, 'Segoe UI', Roboto, 'Helvetica Neue', Arial, sans-serif;",
    "    line-height: 1.6;",
    "    color: #333;",
    "    background: #f5f5f5;",
    "    padding: 20px;",
    "\x7d",
    "",
    ".container \x7b",
    "    max-width: 1200px;",
    "    margin: 0 auto;",
    "    background: white;",
    "    padding: 30px;",
    "    border-radius: 8px;",
    "    box-shadow: 0 2px 4px rgba(0,0,0,0.1);",
    "\x7d",
    "",
    "h1 \x7b",
    "    color: #2563eb;",
    "    border-bottom: 3px solid #2563eb;",
    "    padding-bottom: 10px;",
    "    margin-bottom: 30px;",
    "\x7d",
    "",
    "h2 \x7b",
    "    color: #1e40af;",
    "    margin-top: 40px;",
    "    margin-bottom: 20px;",
    "    padding-bottom: 10px;",
    "    border-bottom: 2px solid #e5e7eb;",
    "\x7d",
    "",
    "h3 \x7b",
    "    color: #374151;",
    "    margin-top: 30px;",
    "    margin-bottom: 15px;",
    "\x7d",
    "",
    ".summary-grid \x7b",
    "    display: grid;",
    "    grid-template-columns: repeat(auto-fit, minmax(250px, 1fr));",
    "    gap: 20px;",
    "    margin-bottom: 30px;",
    "\x7d",
    "",
    ".summary-card \x7b",
    "    background: #f9fafb;",
    "    padding: 20px;",
    "    border-radius: 6px;",
    "    border-left: 4px solid #2563eb;",
    "    transition: all 0.2s;",
    "\x7d",
    "",
    ".summary-card.filterable \x7b",
    "    cursor: pointer;",
    "\x7d",
    "",
    ".summary-card.filterable:hover \x7b",
    "    background: #f3f4f6;",
    "    transform: translateY(-2px);",
    "    box-shadow: 0 4px 6px rgba(0,0,0,0.1);",
    "\x7d",
    "",
    ".summary-card.filterable.active \x7b",
    "    background: #dbeafe;",
    "    border-left-color: #1e40af;",
    "\x7d",
    "",
    ".summary-card h3 \x7b",
    "    margin-top: 0;",
    "    font-size: 0.9em;",
    "    color: #6b7280;",
    "    text-transform: uppercase;",
    "    letter-spacing: 0.5px;",
    "\x7d",
    "",
    ".summary-card.filterable h3::after \x7b",
    "    content: ' 👆';",
    "    font-size: 0.8em;",
    "    opacity: 0.6;",
    "\x7d",
    "",
    ".summary-card .value \x7b",
    "    font-size: 2em;",
    "    font-weight: bold;",
    "    color: #1e40af;",
    "    margin: 10px 0;",
    "\x7d",
    "",
    "table \x7b",
    "    width: 100%;",
    "    border-collapse: collapse;",
    "    margin: 20px 0;",
    "    background: white;",
    "\x7d",
    "",
    "th \x7b",
    "    background: #f3f4f6;",
    "    padding: 12px;",
    "    text-align: left;",
    "    font-weight: 600;",
    "    border-bottom: 2px solid #e5e7eb;",
    "    cursor: pointer;",
    "    user-select: none;",
    "\x7d",
    "",
    "th:hover \x7b",
    "    background: #e5e7eb;",
    "\x7d",
    "",
    "td \x7b",
    "    padding: 10px 12px;",
    "    border-bottom: 1px solid #e5e7eb;",
    "\x7d",
    "",
    "tr:hover \x7b",
    "    background: #f9fafb;",
    "\x7d",
    "",
    ".badge \x7b",
    "    display: inline-block;",
    "    padding: 4px 8px;",
    "    border-radius: 4px;",
    "    font-size: 0.85em;",
    "    font-weight: 600;",
    "\x7d",
    "",
    ".badge-low \x7b",
    "    background: #d1fae5;",
    "    color: #065f46;",
    "\x7d",
    "",
    ".badge-medium \x7b",
    "    background: #fef3c7;",
    "    color: #92400e;",
    "\x7d",
    "",
    ".badge-high \x7b",
    "    background: #fee2e2;",
    "    color: #991b1b;",
    "\x7d",
    "",
    ".complexity-low \x7b",
    "    color: #059669;",
    "    font-weight: 600;",
    "\x7d",
    "",
    ".complexity-medium \x7b",
    "    color: #d97706;",
    "    font-weight: 600;",
    "\x7d",
    "",
    ".complexity-high \x7b",
    "    color: #dc2626;",
    "    font-weight: 600;",
    "\x7d",
    "",
    ".file-section \x7b",
    "    margin: 30px 0;",
    "    padding: 20px;",
    "    background: #f9fafb;",
    "    border-radius: 6px;",
    "\x7d",
    "",
    ".file-header \x7b",
    "    display: flex;",
    "    justify-content: space-between;",
    "    align-items: flex-start;",
    "    margin-bottom: 15px;",
    "    gap: 15px;",
    "\x7d",
    "",
    ".file-header-left \x7b",
    "    flex: 1;",
    "    display: flex;",
    "    flex-direction: column;",
    "    gap: 8px;",
    "\x7d",
    "",
    ".file-title \x7b",
    "    font-size: 1.2em;",
    "    font-weight: 600;",
    "    color: #1e40af;",
    "    cursor: pointer;",
    "    user-select: none;",
    "    transition: color 0.2s;",
    "\x7d",
    "",
    ".file-title:hover \x7b",
    "    color: #3b82f6;",
    "    text-decoration: underline;",
    "\x7d",
    "",
    ".file-summary-info \x7b",
    "    display: flex;",
    "    flex-wrap: wrap;",
    "    gap: 15px;",
    "    font-size: 0.9em;",
    "    color: #6b7280;",
    "\x7d",
    "",
    ".file-summary-info .info-item \x7b",
    "    display: flex;",
    "    align-items: center;",
    "    gap: 5px;",
    "\x7d",
    "",
    ".file-summary-info .info-item strong \x7b",
    "    color: #374151;",
    "    font-weight: 600;",
    "\x7d",
    "",
    ".file-title.filter-active \x7b",
    "    background: #dbeafe;",
    "    padding: 4px 8px;",
    "    border-radius: 4px;",
    "\x7d",
    "",
    ".file-controls \x7b",
    "    margin-bottom: 20px;",
    "    display: flex;",
    "    flex-direction: column;",
    "    gap: 15px;",
    "\x7d",
    "",
    ".file-filter \x7b",
    "    display: flex;",
    "    gap: 10px;",
    "    align-items: center;",
    "\x7d",
    "",
    ".file-sort \x7b",
    "    display: flex;",
    "    gap: 10px;",
    "    align-items: center;",
    "    padding: 10px;",
    "    background: #f9fafb;",
    "    border-radius: 6px;",
    "    border: 1px solid #e5e7eb;",
    "\x7d",
    "",
    ".file-sort label \x7b",
    "    font-weight: 500;",
    "    color: #374151;",
    "    white-space: nowrap;",
    "\x7d",
    "",
    ".file-sort select \x7b",
    "    flex: 1;",
    "    padding: 8px 12px;",
    "    border: 2px solid #e5e7eb;",
    "    border-radius: 6px;",
    "    font-size: 0.95em;",
    "    background: white;",
    "    color: #374151;",
    "    cursor: pointer;",
    "    min-width: 200px;",
    "\x7d",
    "",
    ".file-sort select:focus \x7b",
    "    outline: none;",
    "    border-color: #2563eb;",
    "\x7d",
    "",
    ".file-sort button \x7b",
    "    padding: 8px 16px;",
    "    background: #2563eb;",
    "    color: white;",
    "    border: none;",
    "    border-radius: 6px;",
    "    cursor: pointer;",
    "    font-weight: 500;",
    "    display: flex;",
    "    align-items: center;",
    "    gap: 6px;",
    "    white-space: nowrap;",
    "    transition: background 0.2s;",
    "\x7d",
    "",
    ".file-sort button:hover \x7b",
    "    background: #1e40af;",
    "\x7d",
    "",
    ".file-sort button #file-sort-order-icon \x7b",
    "    font-size: 1.1em;",
    "    font-weight: bold;",
    "\x7d",
    "",
    ".file-sort button #file-sort-order-text \x7b",
    "    font-size: 0.9em;",
    "\x7d",
    "",
    ".file-filter input \x7b",
    "    flex: 1;",
    "    padding: 10px;",
    "    border: 2px solid #e5e7eb;",
    "    border-radius: 6px;",
    "    font-size: 1em;",
    "\x7d",
    "",
    ".file-filter input:focus \x7b",
    "    outline: none;",
    "    border-color: #2563eb;",
    "\x7d",
    "",
    ".file-filter button \x7b",
    "    padding: 10px 20px;",
    "    background: #2563eb;",
    "    color: white;",
    "    border: none;",
    "    border-radius: 6px;",
    "    cursor: pointer;",
    "    font-weight: 500;",
    "\x7d",
    "",
    ".file-filter button:hover \x7b",
    "    background: #1e40af;",
    "\x7d",
    "",
    ".file-section.hidden \x7b",
    "    display: none;",
    "\x7d",
    "",
    ".collapsible \x7b",
    "    background: #f3f4f6;",
    "    border: none;",
    "    padding: 8px 16px;",
    "    border-radius: 4px;",
    "    cursor: pointer;",
    "    font-weight: 500;",
    "    flex-shrink: 0;",
    "    align-self: flex-start;",
    "\x7d",
    "",
    ".collapsible:hover \x7b",
    "    background: #e5e7eb;",
    "\x7d",
    "",
    ".collapsible-content \x7b",
    "    display: none;",
    "\x7d",
    "",
    ".collapsible-content.active \x7b",
    "    display: block;",
    "\x7d",
    "",
    ".issue-list \x7b",
    "    list-style: none;",
    "    margin: 15px 0;",
    "\x7d",
    "",
    ".issue-item \x7b",
    "    padding: 10px;",
    "    margin: 8px 0;",
    "    border-left: 4px solid #e5e7eb;",
    "    background: white;",
    "    border-radius: 4px;",
    "\x7d",
    "",
    ".issue-item.error \x7b",
    "    border-left-color: #dc2626;",
    "\x7d",
    "",
    ".issue-item.warning \x7b",
    "    border-left-color: #d97706;",
    "\x7d",
    "",
    ".issue-item.info \x7b",
    "    border-left-color: #2563eb;",
    "\x7d",
    "",
    ".issue-location \x7b",
    "    font-family: monospace;",
    "    font-size: 0.9em;",
    "    color: #6b7280;",
    "\x7d",
    "",
    ".footer \x7b",
    "    margin-top: 40px;",
    "    padding-top: 20px;",
    "    border-top: 2px solid #e5e7eb;",
    "    text-align: center;",
    "    color: #6b7280;",
    "    font-size: 0.9em;",
    "\x7d",
    "",
    ""]

end EsqlAudit.Report.Html
