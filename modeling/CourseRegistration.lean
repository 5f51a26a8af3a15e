import CourseRegistration.Basic
import CourseRegistration.Request
import CourseRegistration.Session
import CourseRegistration.System
import CourseRegistration.Ledger
import CourseRegistration.SessionInv
import CourseRegistration.Progress
import CourseRegistration.Accounting
import CourseRegistration.Sessions
import CourseRegistration.Metrics
import CourseRegistration.Report
import CourseRegistration.Percentiles
import CourseRegistration.Bookkeeping
import CourseRegistration.Ranges
import CourseRegistration.HotSections
import CourseRegistration.Demo
import CourseRegistration.DemoResults
import CourseRegistration.DemoProgress
import CourseRegistration.Roster
import CourseRegistration.Catalog
