/-!
The script of report pages.
-/
namespace EsqlAudit.Report.Html

/-- Opens and closes parts of a page, sorts its tables and filters its files. -/
def script : String :=
  "\n".intercalate [
    "// Toggle collapsible sections",
    "document.querySelectorAll('.collapsible').forEach(button => \x7b",
    "    button.addEventListener('click', function() \x7b",
    "        // Le contenu collapsible est le nextElementSibling du parent (file-header)",
    "        const header = this.closest('.file-header');",
    "        const content = header ? header.nextElementSibling : null;",
    "        if (content && content.classList.contains('collapsible-content')) \x7b",
    "            content.classList.toggle('active');",
    "            this.textContent = content.classList.contains('active') ? 'Masquer' : 'Afficher';",
    "        \x7d",
    "    \x7d);",
    "\x7d);",
    "",
    "// Simple table sorting",
    "document.querySelectorAll('th').forEach(header => \x7b",
    "    header.addEventListener('click', function() \x7b",
    "        const table = this.closest('table');",
    "        const tbody = table.querySelector('tbody');",
    "        const rows = Array.from(tbody.querySelectorAll('tr'));",
    "        const columnIndex = Array.from(this.parentElement.children).indexOf(this);",
    "        const isAsc = this.classList.contains('asc');",
    "        ",
    "        // Reset all headers",
    "        table.querySelectorAll('th').forEach(th => th.classList.remove('asc', 'desc'));",
    "        this.classList.add(isAsc ? 'desc' : 'asc');",
    "        ",
    "        rows.sort((a, b) => \x7b",
    "            const aText = a.children[columnIndex].textContent.trim();",
    "            const bText = b.children[columnIndex].textContent.trim();",
    "            const aNum = parseFloat(aText);",
    "            const bNum = parseFloat(bText);",
    "            ",
    "            if (!isNaN(aNum) && !isNaN(bNum)) \x7b",
    "                return isAsc ? bNum - aNum : aNum - bNum;",
    "            \x7d",
    "            return isAsc ? bText.localeCompare(aText) : aText.localeCompare(bText);",
    "        \x7d);",
    "        ",
    "        rows.forEach(row => tbody.appendChild(row));",
    "    \x7d);",
    "\x7d);",
    "",
    "// File filtering functionality",
    "let currentFilter = '';",
    "let currentFilterType = '';",
    "",
    "// File sorting functionality",
    "let currentSortCriteria = 'filename';",
    "let currentSortAscending = true;",
    "",
    "function filterFiles(filterText) \x7b",
    "    currentFilter = filterText.toLowerCase().trim();",
    "    currentFilterType = '';",
    "    const fileSections = document.querySelectorAll('.file-section');",
    "    const fileTitles = document.querySelectorAll('.file-title');",
    "    ",
    "    // Reset summary cards",
    "    document.querySelectorAll('.summary-card').forEach(card => \x7b",
    "        card.classList.remove('active');",
    "    \x7d);",
    "    ",
    "    fileSections.forEach(section => \x7b",
    "        const title = section.querySelector('.file-title');",
    "        const fileName = title ? title.textContent.toLowerCase() : '';",
    "        ",
    "        if (currentFilter === '' || fileName.includes(currentFilter)) \x7b",
    "            section.style.display = '';",
    "            if (title && currentFilter !== '') \x7b",
    "                title.classList.add('filter-active');",
    "            \x7d else if (title) \x7b",
    "                title.classList.remove('filter-active');",
    "            \x7d",
    "        \x7d else \x7b",
    "            section.style.display = 'none';",
    "            if (title) \x7b",
    "                title.classList.remove('filter-active');",
    "            \x7d",
    "        \x7d",
    "    \x7d);",
    "\x7d",
    "",
    "function filterFilesByType(filterType) \x7b",
    "    currentFilterType = filterType;",
    "    currentFilter = '';",
    "    const fileSections = document.querySelectorAll('.file-section');",
    "    ",
    "    // Reset summary cards",
    "    document.querySelectorAll('.summary-card').forEach(card => \x7b",
    "        card.classList.remove('active');",
    "    \x7d);",
    "    ",
    "    // Activate clicked card",
    "    const clickedCard = document.querySelector(`[data-filter-type=\"$\x7bfilterType\x7d\"]`);",
    "    if (clickedCard) \x7b",
    "        clickedCard.classList.add('active');",
    "    \x7d",
    "    ",
    "    // Reset filter input",
    "    const filterInput = document.getElementById('file-filter-input');",
    "    if (filterInput) \x7b",
    "        filterInput.value = '';",
    "    \x7d",
    "    ",
    "    fileSections.forEach(section => \x7b",
    "        let shouldShow = false;",
    "        ",
    "        switch(filterType) \x7b",
    "            case 'todos':",
    "                shouldShow = section.dataset.hasTodos === 'true';",
    "                break;",
    "            case 'cursor-issues':",
    "                shouldShow = section.dataset.hasCursorIssues === 'true';",
    "                break;",
    "            case 'memory-issues':",
    "                shouldShow = section.dataset.hasMemoryIssues === 'true';",
    "                break;",
    "            case 'high-complexity':",
    "                const avgCyclo = parseFloat(section.dataset.avgCyclomatic || '0');",
    "                shouldShow = avgCyclo > 5;",
    "                break;",
    "            case 'high-cognitive':",
    "                const avgCogn = parseFloat(section.dataset.avgCognitive || '0');",
    "                shouldShow = avgCogn > 8;",
    "                break;",
    "            default:",
    "                shouldShow = true;",
    "        \x7d",
    "        ",
    "        section.style.display = shouldShow ? '' : 'none';",
    "        ",
    "        const title = section.querySelector('.file-title');",
    "        if (title) \x7b",
    "            if (shouldShow) \x7b",
    "                title.classList.add('filter-active');",
    "            \x7d else \x7b",
    "                title.classList.remove('filter-active');",
    "            \x7d",
    "        \x7d",
    "    \x7d);",
    "\x7d",
    "",
    "// Filter input handler",
    "const filterInput = document.getElementById('file-filter-input');",
    "if (filterInput) \x7b",
    "    filterInput.addEventListener('input', function() \x7b",
    "        filterFiles(this.value);",
    "    \x7d);",
    "\x7d",
    "",
    "// Reset filter button",
    "const resetButton = document.getElementById('file-filter-reset');",
    "if (resetButton) \x7b",
    "    resetButton.addEventListener('click', function() \x7b",
    "        if (filterInput) \x7b",
    "            filterInput.value = '';",
    "        \x7d",
    "        currentFilter = '';",
    "        currentFilterType = '';",
    "        document.querySelectorAll('.summary-card').forEach(card => \x7b",
    "            card.classList.remove('active');",
    "        \x7d);",
    "        document.querySelectorAll('.file-section').forEach(section => \x7b",
    "            section.style.display = '';",
    "            const title = section.querySelector('.file-title');",
    "            if (title) \x7b",
    "                title.classList.remove('filter-active');",
    "            \x7d",
    "        \x7d);",
    "        // Reapply sorting after reset",
    "        sortFiles(currentSortCriteria, currentSortAscending);",
    "    \x7d);",
    "\x7d",
    "",
    "// Click on file title to filter",
    "document.querySelectorAll('.file-title').forEach(title => \x7b",
    "    title.addEventListener('click', function(e) \x7b",
    "        // Ne pas déclencher si on clique sur le bouton collapsible",
    "        if (e.target.closest('.collapsible')) \x7b",
    "            return;",
    "        \x7d",
    "        ",
    "        // Reset filter type first",
    "        currentFilterType = '';",
    "        document.querySelectorAll('.summary-card').forEach(card => \x7b",
    "            card.classList.remove('active');",
    "        \x7d);",
    "        ",
    "        const fileName = this.textContent.replace(/^📄\\s+/, '').trim();",
    "        if (filterInput) \x7b",
    "            filterInput.value = fileName;",
    "        \x7d",
    "        filterFiles(fileName);",
    "    \x7d);",
    "\x7d);",
    "",
    "// Click on summary cards to filter",
    "document.querySelectorAll('.summary-card.filterable').forEach(card => \x7b",
    "    card.addEventListener('click', function() \x7b",
    "        const filterType = this.dataset.filterType;",
    "        if (filterType) \x7b",
    "            filterFilesByType(filterType);",
    "        \x7d",
    "    \x7d);",
    "\x7d);",
    "",
    "// File sorting functionality",
    "function sortFiles(criteria, ascending) \x7b",
    "    // Get all visible file sections (respecting current filter)",
    "    const fileSections = Array.from(document.querySelectorAll('.file-section'))",
    "        .filter(section => section.style.display !== 'none');",
    "    ",
    "    if (fileSections.length === 0) \x7b",
    "        return;",
    "    \x7d",
    "    ",
    "    // Get the parent container (files-container or direct parent)",
    "    const filesContainer = document.getElementById('files-container');",
    "    const parent = filesContainer || (fileSections[0] ? fileSections[0].parentElement : null);",
    "    ",
    "    if (!parent) \x7b",
    "        return;",
    "    \x7d",
    "    ",
    "    // Sort the file sections",
    "    fileSections.sort((a, b) => \x7b",
    "        let aValue, bValue;",
    "        ",
    "        switch(criteria) \x7b",
    "            case 'filename':",
    "                aValue = (a.dataset.filename || '').toLowerCase();",
    "                bValue = (b.dataset.filename || '').toLowerCase();",
    "                return ascending ",
    "                    ? aValue.localeCompare(bValue)",
    "                    : bValue.localeCompare(aValue);",
    "            ",
    "            case 'total-lines':",
    "                aValue = parseInt(a.dataset.totalLines || '0', 10);",
    "                bValue = parseInt(b.dataset.totalLines || '0', 10);",
    "                return ascending ? aValue - bValue : bValue - aValue;",
    "            ",
    "            case 'non-empty-lines':",
    "                aValue = parseInt(a.dataset.nonEmptyLines || '0', 10);",
    "                bValue = parseInt(b.dataset.nonEmptyLines || '0', 10);",
    "                return ascending ? aValue - bValue : bValue - aValue;",
    "            ",
    "            case 'avg-cyclomatic':",
    "                aValue = parseFloat(a.dataset.avgCyclomatic || '0');",
    "                bValue = parseFloat(b.dataset.avgCyclomatic || '0');",
    "                return ascending ? aValue - bValue : bValue - aValue;",
    "            ",
    "            case 'avg-cognitive':",
    "                aValue = parseFloat(a.dataset.avgCognitive || '0');",
    "                bValue = parseFloat(b.dataset.avgCognitive || '0');",
    "                return ascending ? aValue - bValue : bValue - aValue;",
    "            ",
    "            case 'function-count':",
    "                aValue = parseInt(a.dataset.functionCount || '0', 10);",
    "                bValue = parseInt(b.dataset.functionCount || '0', 10);",
    "                return ascending ? aValue - bValue : bValue - aValue;",
    "            ",
    "            case 'total-sql-blocks':",
    "                aValue = parseInt(a.dataset.totalSqlBlocks || '0', 10);",
    "                bValue = parseInt(b.dataset.totalSqlBlocks || '0', 10);",
    "                return ascending ? aValue - bValue : bValue - aValue;",
    "            ",
    "            case 'todos-count':",
    "                aValue = parseInt(a.dataset.todosCount || '0', 10);",
    "                bValue = parseInt(b.dataset.todosCount || '0', 10);",
    "                return ascending ? aValue - bValue : bValue - aValue;",
    "            ",
    "            case 'cursor-issues-count':",
    "                aValue = parseInt(a.dataset.cursorIssuesCount || '0', 10);",
    "                bValue = parseInt(b.dataset.cursorIssuesCount || '0', 10);",
    "                return ascending ? aValue - bValue : bValue - aValue;",
    "            ",
    "            case 'memory-warnings-count':",
    "                aValue = parseInt(a.dataset.memoryWarningsCount || '0', 10);",
    "                bValue = parseInt(b.dataset.memoryWarningsCount || '0', 10);",
    "                return ascending ? aValue - bValue : bValue - aValue;",
    "            ",
    "            default:",
    "                return 0;",
    "        \x7d",
    "    \x7d);",
    "    ",
    "    // Reorder elements in the DOM",
    "    fileSections.forEach(section => \x7b",
    "        parent.appendChild(section);",
    "    \x7d);",
    "\x7d",
    "",
    "// Sort select handler",
    "const sortSelect = document.getElementById('file-sort-select');",
    "if (sortSelect) \x7b",
    "    sortSelect.addEventListener('change', function() \x7b",
    "        currentSortCriteria = this.value;",
    "        sortFiles(currentSortCriteria, currentSortAscending);",
    "    \x7d);",
    "\x7d",
    "",
    "// Sort order button handler",
    "const sortOrderButton = document.getElementById('file-sort-order');",
    "if (sortOrderButton) \x7b",
    "    sortOrderButton.addEventListener('click', function() \x7b",
    "        currentSortAscending = !currentSortAscending;",
    "        const icon = document.getElementById('file-sort-order-icon');",
    "        const text = document.getElementById('file-sort-order-text');",
    "        if (icon) \x7b",
    "            icon.textContent = currentSortAscending ? '↑' : '↓';",
    "        \x7d",
    "        if (text) \x7b",
    "            text.textContent = currentSortAscending ? 'Croissant' : 'Décroissant';",
    "        \x7d",
    "        sortFiles(currentSortCriteria, currentSortAscending);",
    "    \x7d);",
    "\x7d",
    "",
    "// Apply sorting when filtering changes",
    "const originalFilterFiles = filterFiles;",
    "filterFiles = function(filterText) \x7b",
    "    originalFilterFiles(filterText);",
    "    sortFiles(currentSortCriteria, currentSortAscending);",
    "\x7d;",
    "",
    "const originalFilterFilesByType = filterFilesByType;",
    "filterFilesByType = function(filterType) \x7b",
    "    originalFilterFilesByType(filterType);",
    "    sortFiles(currentSortCriteria, currentSortAscending);",
    "\x7d;",
    "",
    "// Apply initial sort on page load",
    "document.addEventListener('DOMContentLoaded', function() \x7b",
    "    // Small delay to ensure all elements are rendered",
    "    setTimeout(() => \x7b",
    "        sortFiles(currentSortCriteria, currentSortAscending);",
    "    \x7d, 100);",
    "\x7d);",
    "",
    ""]

end EsqlAudit.Report.Html
